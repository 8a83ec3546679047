import Playthrough.Proofs.Step

/-!
# Two front ends with one director

A director knows its front end only by what it answers. If two front ends are related such that
every call keeps them related and is answered alike, two directors that are in the same state on
them stay so, whatever orders they follow and whatever replies they receive.

## Main definitions

* `Frontend.Matched` — a relation that every call keeps, and under which front ends answer alike.
* `Director.Alike` — two directors in the same state on related front ends.

## Main results

* `Frontend.Matched.follow`, `Frontend.Matched.receive` — directors stay alike when they follow the
  same order or receive the same reply.
-/

namespace Playthrough

variable {F G : Type} [Frontend F] [Frontend G]

/-- A relation between front ends that every call keeps, and under which they answer alike. -/
structure Frontend.Matched (R : F → G → Prop) : Prop where
  content : ∀ {f g}, R f g → Frontend.content f = Frontend.content g
  windowWidth : ∀ {f g}, R f g → Frontend.windowWidth f = Frontend.windowWidth g
  listWidth : ∀ {f g}, R f g → Frontend.listWidth f = Frontend.listWidth g
  cue : ∀ (q : Cue) {f g}, R f g → R (Frontend.cue q f) (Frontend.cue q g)
  mark : ∀ (rows : RowSpan) (style : Style) {f g}, R f g →
    R (Frontend.mark rows style f).1 (Frontend.mark rows style g).1 ∧
      (Frontend.mark rows style f).2 = (Frontend.mark rows style g).2
  send : ∀ (r : Request) {f g}, R f g → R (Frontend.send r f).1 (Frontend.send r g).1 ∧
    (Frontend.send r f).2 = (Frontend.send r g).2

omit [Frontend F] [Frontend G] in
/-- Two directors in the same state, on related front ends. -/
structure Director.Alike (R : F → G → Prop) (d : Director F) (e : Director G) : Prop where
  state : d.state = e.state
  display : d.display = e.display
  front : R d.front e.front

omit [Frontend F] [Frontend G] in
theorem Director.Alike.modify {R : F → G → Prop} {d : Director F} {e : Director G}
    (h : Director.Alike R d e) (f : PlayState → PlayState) :
    Director.Alike R (d.modify f) (e.modify f) :=
  ⟨congrArg f h.state, h.display, h.front⟩

namespace Frontend.Matched

variable {R : F → G → Prop} (matched : Frontend.Matched R)

include matched

/-! ### Showing the issues -/

section

variable {f : F} {g : G}

theorem unmarkAll (h : R f g) (markers : List Marker) :
    R (IssueDisplay.unmarkAll f markers) (IssueDisplay.unmarkAll g markers) := by
  induction markers generalizing f g with
  | nil => exact h
  | cons m ms ih => exact ih (matched.cue _ h)

theorem markAll (h : R f g) (ds : List Diagnostic) :
    R (IssueDisplay.markAll f ds).1 (IssueDisplay.markAll g ds).1 ∧
      (IssueDisplay.markAll f ds).2 = (IssueDisplay.markAll g ds).2 := by
  induction ds generalizing f g with
  | nil => exact ⟨h, rfl⟩
  | cons x ds ih =>
    obtain ⟨hmarked, hname⟩ := matched.mark x.rowSpan x.severity.style h
    obtain ⟨hrest, hnames⟩ := ih hmarked
    refine ⟨hrest, ?_⟩
    simp only [IssueDisplay.markAll, hname, hnames]

theorem showTally (h : R f g) (tally : IssueTally) :
    R (IssueDisplay.showTally tally f) (IssueDisplay.showTally tally g) := by
  unfold IssueDisplay.showTally
  split
  · exact matched.cue _ h
  · exact matched.cue _ h

theorem centre (h : R f g) (v : IssueDisplay) : R (v.centre f) (v.centre g) := by
  have hleft : IssueDisplay.centredLeft f = IssueDisplay.centredLeft g := by
    rw [IssueDisplay.centredLeft, matched.windowWidth h, matched.listWidth h,
      IssueDisplay.centredLeft]
  unfold IssueDisplay.centre
  rw [hleft]
  split
  · exact matched.cue _ h
  · exact h

theorem update (h : R f g) (v : IssueDisplay) (l : IssueList) :
    (v.update l f).1 = (v.update l g).1 ∧ R (v.update l f).2 (v.update l g).2 := by
  have hnoted := matched.cue (.showNotes (l.shown.map Diagnostic.note))
    (matched.unmarkAll h v.markers)
  obtain ⟨hmarked, hnames⟩ := matched.markAll hnoted l.shown
  have htold := matched.showTally
    (matched.cue (.showEntries (l.shown.map Diagnostic.entry)) hmarked) l.tally
  have hdisplay : (v.update l f).1 = (v.update l g).1 :=
    congrArg (IssueDisplay.mk · (l.tally.total != 0)) hnames
  refine ⟨hdisplay, ?_⟩
  show R ((v.update l f).1.centre _) ((v.update l g).1.centre _)
  rw [hdisplay]
  exact matched.centre htold _

end

/-! ### Small steps -/

variable {d : Director F} {e : Director G} (h : Director.Alike R d e)

include h

theorem tell (q : Cue) : Director.Alike R (d.cue q) (e.cue q) :=
  ⟨h.state, h.display, matched.cue q h.front⟩

theorem showIssues : Director.Alike R d.showIssues e.showIssues := by
  obtain ⟨hdisplay, hfront⟩ := matched.update h.front d.display d.state.issues
  refine ⟨h.state, ?_, ?_⟩
  · show (d.display.update d.state.issues d.front).1 = (e.display.update e.state.issues e.front).1
    rw [← h.display, ← h.state]
    exact hdisplay
  · show R (d.display.update d.state.issues d.front).2 (e.display.update e.state.issues e.front).2
    rw [← h.display, ← h.state]
    exact hfront

theorem request (r : Request) : Director.Alike R (d.request r) (e.request r) := by
  obtain ⟨hsent, hresult⟩ := matched.send r h.front
  unfold Director.request
  cases hf : Frontend.send r d.front with
  | mk f result =>
    cases hg : Frontend.send r e.front with
    | mk g result' =>
      rw [hf, hg] at hsent hresult
      obtain rfl : result = result' := hresult
      cases result with
      | ok => exact ⟨h.state, h.display, hsent⟩
      | error x =>
        refine ⟨?_, h.display, matched.cue _ hsent⟩
        exact congrArg (fun s : PlayState => { s with phase := .failed, point := none }) h.state

theorem submit (n : Nat) : Director.Alike R (d.submit n) (e.submit n) := by
  rw [Director.submit, h.state]
  exact matched.request h _

theorem stopSession : Director.Alike R d.stopSession e.stopSession := by
  unfold Director.stopSession
  rw [h.state]
  split
  · exact h
  · exact ⟨rfl, h.display, (matched.send _ h.front).1⟩

/-! ### Orders -/

theorem compile (content : String) : Director.Alike R (d.compile content) (e.compile content) := by
  have hopened := matched.showIssues
    (matched.tell ((matched.stopSession h).modify Director.nextSession) .turnPage)
  unfold Director.compile
  dsimp only
  rw [hopened.state]
  exact matched.request hopened _

theorem select (session : SessionId) (n : Nat) :
    Director.Alike R (d.select session n).1 (e.select session n).1 ∧
      (d.select session n).2 = (e.select session n).2 := by
  unfold Director.select
  rw [h.state]
  split
  · exact ⟨h, rfl⟩
  · exact ⟨matched.submit (h.modify _) n, rfl⟩

theorem visitNextIssue : Director.Alike R d.visitNextIssue.1 e.visitNextIssue.1 ∧
    d.visitNextIssue.2 = e.visitNextIssue.2 := by
  unfold Director.visitNextIssue
  rw [h.state]
  split
  · exact ⟨h, rfl⟩
  · exact ⟨matched.tell (h.modify _) _, rfl⟩

theorem centreList : Director.Alike R d.centreList e.centreList := by
  refine ⟨h.state, h.display, ?_⟩
  show R (d.display.centre d.front) (e.display.centre e.front)
  rw [h.display]
  exact matched.centre h.front _

/-- A session is started from the text that the front end answers. -/
theorem restart (f : PlayState → PlayState) :
    Director.Alike R ((d.modify f).compile (Frontend.content d.front))
      ((e.modify f).compile (Frontend.content e.front)) := by
  rw [matched.content h.front]
  exact matched.compile (h.modify f) _

/-- Directors stay alike when they follow an order, and they give the same answer. -/
theorem follow (o : Order) : Director.Alike R (d.follow o).1 (e.follow o).1 ∧
    (d.follow o).2 = (e.follow o).2 := by
  have hanswer {d : Director F} {e : Director G} (h : Director.Alike R d e) :
      Answer.session d.state.session = Answer.session e.state.session := by rw [h.state]
  cases o with
  | compile content =>
    have hnext := matched.compile h content
    exact ⟨hnext, hanswer hnext⟩
  | startOver =>
    have hnext := matched.restart h fun s => { s with log := s.log.clear }
    exact ⟨hnext, hanswer hnext⟩
  | takeBack =>
    have hnext := matched.restart h fun s => { s with log := s.log.dropLast.1 }
    exact ⟨hnext, hanswer hnext⟩
  | select session n =>
    obtain ⟨hnext, hresult⟩ := matched.select h session n
    exact ⟨hnext, congrArg Answer.selection hresult⟩
  | nextIssue =>
    obtain ⟨hnext, hline⟩ := matched.visitNextIssue h
    exact ⟨hnext, congrArg Answer.line hline⟩
  | centre => exact ⟨matched.centreList h, rfl⟩

/-! ### Replies -/

theorem addDiagnostic (x : Diagnostic) :
    Director.Alike R (d.addDiagnostic x) (e.addDiagnostic x) := by
  let said {H : Type} [Frontend H] (d : Director H) : Director H :=
    if x.severity = .runtimeError then d.cue (.sayFailure x) else d
  have hsaid : Director.Alike R (said d) (said e) := by
    dsimp only [said]
    split
    · exact matched.tell h _
    · exact h
  change Director.Alike R
    (if ((said d).state.issues.add x).2 then
      ((said d).modify fun s => { s with issues := ((said d).state.issues.add x).1 }).showIssues
      else said d)
    (if ((said e).state.issues.add x).2 then
      ((said e).modify fun s => { s with issues := ((said e).state.issues.add x).1 }).showIssues
      else said e)
  rw [hsaid.state]
  split
  · exact matched.showIssues (hsaid.modify _)
  · exact hsaid

theorem addChoice (c : Choice) : Director.Alike R (d.addChoice c) (e.addChoice c) := by
  unfold Director.addChoice
  rw [h.state]
  cases Director.openPoint e.state with
  | mk state point =>
    have hopened : Director.Alike R { d with state } { e with state } := ⟨rfl, h.display, h.front⟩
    dsimp only
    split
    · exact hopened.modify _
    · exact (matched.tell hopened _).modify _

theorem settlePoint : Director.Alike R d.settlePoint e.settlePoint := by
  have hscrolled := matched.tell h .scrollDown
  unfold Director.settlePoint
  dsimp only
  rw [hscrolled.state]
  split
  · exact hscrolled
  · exact matched.submit ((matched.tell hscrolled .rule).modify _) _

theorem perform (event : Event) : Director.Alike R (d.perform event) (e.perform event) := by
  cases event with
  | text text =>
    rw [Director.perform, h.state]
    exact matched.tell h _
  | diagnostic x => exact matched.addDiagnostic h x
  | choice c => exact matched.addChoice h c
  | inputRequired => exact matched.settlePoint h
  | storyCompleted => exact matched.tell (h.modify _) _
  | unexpectedExit => exact matched.tell (h.modify _) _
  | stopAcknowledged => exact h

/-- Directors stay alike when they receive a reply, and the same becomes of it. -/
theorem receive (r : Reply) : Director.Alike R (d.receive r).1 (e.receive r).1 ∧
    (d.receive r).2 = (e.receive r).2 := by
  unfold Director.receive
  rw [h.state]
  split
  · exact ⟨matched.perform h r.event, rfl⟩
  · exact ⟨h, rfl⟩

end Frontend.Matched

end Playthrough
