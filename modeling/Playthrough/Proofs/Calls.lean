import Mathlib.Tactic.SplitIfs
import Playthrough.Director
import Playthrough.Recorder

/-!
# What a director tells the front end

A director on a recorded front end leaves a list of calls behind. This file says, for each thing a
director does, which calls it adds to the list and what becomes of the state of the play. What the
front end answers is left open: a request may be sent or not, and a marker may have any name.

## Main definitions

* `Director.calls` — all calls made so far.
* `IssueDisplay.updateCalls` — the calls of an update of the issues.
* `PlayState.hears` — whether a reply reaches the running story.

## Main results

* `IssueDisplay.update_eq` — what an update of the issues does.
* `Director.request_eq`, `Director.compile_eq` — a request, and a new session.
* `Director.receive_of_hears`, `Director.receive_of_not_hears` — which replies are performed.
* `Director.select_of_refused`, `Director.select_of_offered` — which selections are submitted.
-/

namespace Playthrough

variable {F : Type} [Frontend F]

/-! ### Showing the issues -/

namespace Recorder

@[simp] theorem calls_mark (rows : RowSpan) (style : Style) (r : Recorder F) :
    (Frontend.mark rows style r).1.calls =
      r.calls ++ [.mark (Frontend.mark rows style r).2 rows style] := rfl

end Recorder

namespace IssueDisplay

/-- The call that marks the row of a diagnostic with a marker. -/
def markCall (p : Diagnostic × Marker) : Call :=
  .mark p.2 p.1.rowSpan p.1.severity.style

/-- How the number of issues is shown. -/
def tallyCue (tally : IssueTally) : Cue :=
  if tally.total = 0 then .showNone noIssuesMessage else .showBadge (.ofTally tally)

/-- The calls of an update: the old markers are taken away, and the issues get new ones. -/
def updateCalls (old : List Marker) (l : IssueList) (new : List Marker) (left : Float) :
    List Call :=
  old.map (fun m => .cue (.unmark m)) ++ [.cue (.showNotes (l.shown.map Diagnostic.note))] ++
    (l.shown.zip new).map markCall ++
    [.cue (.showEntries (l.shown.map Diagnostic.entry)), .cue (tallyCue l.tally)] ++
    if l.tally.total = 0 then [] else [.cue (.placeList left)]

theorem calls_unmarkAll (markers : List Marker) (r : Recorder F) :
    (unmarkAll r markers).calls = r.calls ++ markers.map fun m => .cue (.unmark m) := by
  induction markers generalizing r with
  | nil => simp [unmarkAll]
  | cons m ms ih =>
    rw [unmarkAll, List.foldl_cons, ← unmarkAll, ih]
    simp

theorem markAll_eq (ds : List Diagnostic) (r : Recorder F) :
    (markAll r ds).2.length = ds.length ∧
      (markAll r ds).1.calls = r.calls ++ (ds.zip (markAll r ds).2).map markCall := by
  induction ds generalizing r with
  | nil => simp [markAll]
  | cons x ds ih =>
    obtain ⟨hlength, hcalls⟩ := ih (Frontend.mark x.rowSpan x.severity.style r).1
    refine ⟨by simp [markAll, hlength], ?_⟩
    simp only [markAll, hcalls, Recorder.calls_mark, List.zip_cons_cons, List.map_cons,
      List.append_assoc, List.singleton_append]
    rfl

theorem showTally_eq (tally : IssueTally) (r : Recorder F) :
    showTally tally r = Frontend.cue (tallyCue tally) r := by
  unfold showTally tallyCue
  split <;> rfl

/-- What an update of the issues does, whatever names the front end gives to the new markers. -/
theorem update_eq (v : IssueDisplay) (l : IssueList) (r : Recorder F) :
    ∃ (new : List Marker) (left : Float), new.length = l.shown.length ∧
      (v.update l r).1 = ⟨new, l.tally.total != 0⟩ ∧
      (v.update l r).2.calls = r.calls ++ updateCalls v.markers l new left := by
  let noted := Frontend.cue (.showNotes (l.shown.map Diagnostic.note)) (unmarkAll r v.markers)
  obtain ⟨hlength, hcalls⟩ := markAll_eq l.shown noted
  let told := showTally l.tally
    (Frontend.cue (.showEntries (l.shown.map Diagnostic.entry)) (markAll noted l.shown).1)
  have htold : told.calls = r.calls ++ (v.markers.map (fun m => Call.cue (.unmark m)) ++
      [.cue (.showNotes (l.shown.map Diagnostic.note))] ++
      (l.shown.zip (markAll noted l.shown).2).map markCall ++
      [.cue (.showEntries (l.shown.map Diagnostic.entry)), .cue (tallyCue l.tally)]) := by
    simp [told, showTally_eq, hcalls, noted, calls_unmarkAll]
  refine ⟨(markAll noted l.shown).2, centredLeft told, hlength, rfl, ?_⟩
  change (centre ⟨(markAll noted l.shown).2, l.tally.total != 0⟩ told).calls = _
  by_cases htotal : l.tally.total = 0
  · simp [centre, updateCalls, htotal, htold]
  · simp [centre, updateCalls, htotal, htold]

/-- The calls of an update that shows no issues. -/
def clearCalls (old : List Marker) : List Call :=
  old.map (fun m => .cue (.unmark m)) ++
    [.cue (.showNotes []), .cue (.showEntries []), .cue (.showNone noIssuesMessage)]

theorem updateCalls_clear (old new : List Marker) (l : IssueList) (left : Float) :
    updateCalls old l.clear new left = clearCalls old := by
  simp [updateCalls, clearCalls, tallyCue, IssueList.tally, IssueTally.ofList, IssueTally.total]

theorem tallyCue_cases (tally : IssueTally) :
    tallyCue tally = .showNone noIssuesMessage ∨
      tallyCue tally = .showBadge (.ofTally tally) := by
  unfold tallyCue
  split
  · exact .inl rfl
  · exact .inr rfl

/-- What is found among the calls of an update, one sort of call after the other. -/
theorem filterMap_updateCalls {α : Type} (f : Call → Option α) (old new : List Marker)
    (l : IssueList) (left : Float) :
    (updateCalls old l new left).filterMap f =
      old.filterMap (fun m => f (.cue (.unmark m))) ++
        (f (.cue (.showNotes (l.shown.map Diagnostic.note)))).toList ++
        (l.shown.zip new).filterMap (fun p => f (markCall p)) ++
        (f (.cue (.showEntries (l.shown.map Diagnostic.entry)))).toList ++
        (f (.cue (tallyCue l.tally))).toList ++
        if l.tally.total = 0 then [] else (f (.cue (.placeList left))).toList := by
  have hsingle (c : Call) : [c].filterMap f = (f c).toList := by
    cases hc : f c <;> simp [hc]
  have hpair (c c' : Call) : [c, c'].filterMap f = (f c).toList ++ (f c').toList := by
    rw [← List.singleton_append, List.filterMap_append, hsingle, hsingle]
  simp only [updateCalls, List.filterMap_append, List.filterMap_map, hsingle, hpair,
    List.append_assoc]
  split
  · rfl
  · rw [hsingle]
    rfl

end IssueDisplay

namespace Director

variable (d : Director (Recorder F))

/-- All calls made so far, the first one first. -/
abbrev calls : List Call :=
  d.front.calls

@[simp] theorem state_cue (q : Cue) : (d.cue q).state = d.state := rfl

@[simp] theorem display_cue (q : Cue) : (d.cue q).display = d.display := rfl

@[simp] theorem calls_cue (q : Cue) : (d.cue q).calls = d.calls ++ [.cue q] := rfl

omit [Frontend F] in
@[simp] theorem state_modify (f : PlayState → PlayState) : (d.modify f).state = f d.state := rfl

omit [Frontend F] in
@[simp] theorem display_modify (f : PlayState → PlayState) :
    (d.modify f).display = d.display := rfl

omit [Frontend F] in
@[simp] theorem calls_modify (f : PlayState → PlayState) : (d.modify f).calls = d.calls := rfl

theorem showIssues_eq :
    ∃ (new : List Marker) (left : Float), new.length = d.state.issues.shown.length ∧
      d.showIssues.state = d.state ∧
      d.showIssues.display = ⟨new, d.state.issues.tally.total != 0⟩ ∧
      d.showIssues.calls =
        d.calls ++ IssueDisplay.updateCalls d.display.markers d.state.issues new left := by
  obtain ⟨new, left, hlength, hdisplay, hcalls⟩ := d.display.update_eq d.state.issues d.front
  exact ⟨new, left, hlength, rfl, hdisplay, hcalls⟩

/-! ### Requests -/

/-- The state behind a request that was made in the state `s`, and the calls that follow it. The
session ends if the request was not sent. -/
inductive Sequel (s : PlayState) : PlayState → List Call → Prop where
  | sent : Sequel s s []
  | lost (e : SendError) :
      Sequel s { s with phase := .failed, point := none }
        [.cue (.sayEnd (unavailableMessage e) .failed)]

namespace Sequel

variable {s s' : PlayState} {tail : List Call}

theorem session_eq (h : Sequel s s' tail) : s'.session = s.session := by
  cases h <;> rfl

theorem log_eq (h : Sequel s s' tail) : s'.log = s.log := by
  cases h <;> rfl

theorem issues_eq (h : Sequel s s' tail) : s'.issues = s.issues := by
  cases h <;> rfl

theorem point_eq (h : Sequel s s' tail) (hs : s.point = none) : s'.point = none := by
  cases h with
  | sent => exact hs
  | lost e => rfl

end Sequel

theorem request_eq (q : Request) :
    ∃ tail, Sequel d.state (d.request q).state tail ∧ (d.request q).display = d.display ∧
      (d.request q).calls = d.calls ++ .send q :: tail := by
  have hcalls : (Frontend.send q d.front).1.calls = d.calls ++ [.send q] :=
    Recorder.calls_send q d.front
  unfold request
  cases hsend : Frontend.send q d.front with
  | mk front result =>
    have hfront : front.calls = d.calls ++ [.send q] := by rw [← hcalls, hsend]
    cases result with
    | ok => exact ⟨[], .sent, rfl, hfront⟩
    | error e =>
      refine ⟨_, .lost e, rfl, ?_⟩
      change front.calls ++ [_] = _
      rw [hfront, List.append_assoc, List.singleton_append]

/-- The calls that stop the session before. -/
def stopCalls (s : PlayState) : List Call :=
  if s.session = 0 then [] else [.send (.stop s.session)]

omit [Frontend F] in
theorem stopCalls_cases (s : PlayState) :
    stopCalls s = [] ∨ stopCalls s = [.send (.stop s.session)] := by
  rw [stopCalls]
  split
  · exact .inl rfl
  · exact .inr rfl

theorem calls_stopSession : d.stopSession.calls = d.calls ++ stopCalls d.state := by
  unfold stopSession stopCalls
  split
  · simp
  · exact Recorder.calls_send _ _

@[simp] theorem state_stopSession : d.stopSession.state = d.state := by
  unfold stopSession
  split <;> rfl

@[simp] theorem display_stopSession : d.stopSession.display = d.display := by
  unfold stopSession
  split <;> rfl

/-- The calls of a new session up to its request to run the story. -/
def openingCalls (s : PlayState) (v : IssueDisplay) : List Call :=
  stopCalls s ++ .cue .turnPage :: IssueDisplay.clearCalls v.markers

theorem compile_eq (content : String) :
    ∃ tail, Sequel (nextSession d.state) (d.compile content).state tail ∧
      (d.compile content).display = {} ∧
      (d.compile content).calls = d.calls ++
        (openingCalls d.state d.display ++
          .send (.run content (d.state.session + 1)) :: tail) := by
  let opened := (d.stopSession.modify nextSession).cue .turnPage
  obtain ⟨new, left, hlength, hstate, hdisplay, hcalls⟩ := opened.showIssues_eq
  obtain ⟨tail, hsequel, hdisplay', hcalls'⟩ :=
    opened.showIssues.request_eq (.run content opened.showIssues.state.session)
  have hopened : opened.state = nextSession d.state := by simp [opened]
  have hissues : opened.state.issues = d.state.issues.clear := by rw [hopened, nextSession]
  have hnew : new = [] := by
    simpa [hissues] using hlength
  refine ⟨tail, ?_, ?_, ?_⟩
  · rw [← hopened, ← hstate]
    exact hsequel
  · refine hdisplay'.trans (hdisplay.trans ?_)
    simp [hnew, hissues, IssueList.tally, IssueTally.ofList, IssueTally.total]
  · refine hcalls'.trans ?_
    rw [hcalls, hstate, hissues, IssueDisplay.updateCalls_clear, hopened]
    simp [opened, calls_stopSession, openingCalls, nextSession]

/-! ### Replies -/

end Director

/-- Whether a reply reaches the story: it is of the current session, which is running. -/
def PlayState.hears (s : PlayState) (r : Reply) : Prop :=
  s.phase = .running ∧ r.session = s.session

instance (s : PlayState) (r : Reply) : Decidable (s.hears r) :=
  inferInstanceAs (Decidable (_ ∧ _))

namespace Director

variable (d : Director (Recorder F))

omit [Frontend F] in
theorem outcome_of_hears {s : PlayState} {r : Reply} (h : s.hears r) :
    outcome s r = .applied := by
  simp [outcome, h.1, h.2, Phase.isFinal]

theorem receive_of_hears {r : Reply} (h : d.state.hears r) :
    d.receive r = (d.perform r.event, .applied) := by
  simp [receive, outcome_of_hears h]

/-- A reply that does not reach the story changes nothing. -/
theorem receive_of_not_hears {r : Reply} (h : ¬ d.state.hears r) : (d.receive r).1 = d := by
  unfold receive
  cases houtcome : outcome d.state r with
  | stale => rfl
  | tooLate => rfl
  | applied =>
    unfold outcome at houtcome
    split_ifs at houtcome with hsession hstop hfinal
    · simp [hstop, perform]
    · simp only [not_or, Decidable.not_not] at hsession
      refine absurd ⟨?_, hsession.2⟩ h
      cases hphase : d.state.phase <;> simp_all [Phase.isFinal]

/-- The calls that show a diagnostic in the transcript. -/
def failureCalls (x : Diagnostic) : List Call :=
  if x.severity = .runtimeError then [.cue (.sayFailure x)] else []

omit [Frontend F] in
theorem failureCalls_cases (x : Diagnostic) :
    failureCalls x = [] ∨ failureCalls x = [.cue (.sayFailure x)] := by
  rw [failureCalls]
  split
  · exact .inr rfl
  · exact .inl rfl

theorem addDiagnostic_of_mem {x : Diagnostic} (h : x ∈ d.state.issues.arrived) :
    (d.addDiagnostic x).state = d.state ∧ (d.addDiagnostic x).display = d.display ∧
      (d.addDiagnostic x).calls = d.calls ++ failureCalls x := by
  by_cases hfailure : x.severity = .runtimeError <;>
    simp [addDiagnostic, failureCalls, IssueList.add, h, hfailure]

theorem addDiagnostic_of_not_mem {x : Diagnostic} (h : x ∉ d.state.issues.arrived) :
    ∃ (issues : IssueList) (new : List Marker) (left : Float),
      issues = { d.state.issues with arrived := d.state.issues.arrived ++ [x] } ∧
      new.length = issues.shown.length ∧
      (d.addDiagnostic x).state = { d.state with issues } ∧
      (d.addDiagnostic x).display = ⟨new, issues.tally.total != 0⟩ ∧
      (d.addDiagnostic x).calls = d.calls ++ (failureCalls x ++
        IssueDisplay.updateCalls d.display.markers issues new left) := by
  let said := if x.severity = .runtimeError then d.cue (.sayFailure x) else d
  have hstate : said.state = d.state := by dsimp only [said]; split <;> rfl
  have hdisplay : said.display = d.display := by dsimp only [said]; split <;> rfl
  have hsaid : said.calls = d.calls ++ failureCalls x := by
    dsimp only [said, failureCalls]; split <;> simp
  let issues : IssueList := { d.state.issues with arrived := d.state.issues.arrived ++ [x] }
  obtain ⟨new, left, hlength, hstate', hdisplay', hcalls'⟩ :=
    (said.modify fun s => { s with issues }).showIssues_eq
  have hadd : said.state.issues.add x = (issues, true) := by
    rw [hstate, IssueList.add, if_neg h]
  have heq : d.addDiagnostic x = (said.modify fun s => { s with issues }).showIssues := by
    change (if (said.state.issues.add x).2 then
      (said.modify fun s => { s with issues := (said.state.issues.add x).1 }).showIssues
      else said) = _
    rw [hadd, if_pos rfl]
  refine ⟨issues, new, left, rfl, hlength, ?_, ?_, ?_⟩
  · rw [heq, hstate', state_modify, hstate]
  · rw [heq, hdisplay']
    rfl
  · rw [heq, hcalls', calls_modify, hsaid, display_modify, hdisplay, List.append_assoc]
    rfl

theorem addChoice_eq (c : Choice) :
    (d.addChoice c).state =
        { (openPoint d.state).1 with
          point := some { (openPoint d.state).2 with
            choices := (openPoint d.state).2.choices ++ [c] } } ∧
      (d.addChoice c).display = d.display ∧
      (d.addChoice c).calls = d.calls ++
        if (openPoint d.state).2.replayed then []
        else [.cue (.offer (openPoint d.state).1.session c (openPoint d.state).2.animated)] := by
  cases hpoint : openPoint d.state with
  | mk s p => by_cases hp : p.replayed <;> simp [addChoice, hpoint, hp]

omit [Frontend F] in
/-- The choice that settles a decision point is the one that the log takes. -/
theorem takeDue_of_replayedChoice {s : PlayState} {n : Nat} (h : replayedChoice s = some n) :
    s.log.takeDue.2 = some n := by
  rw [replayedChoice] at h
  split at h
  · split at h
    · exact h
    · contradiction
  · contradiction

theorem settlePoint_of_none (h : replayedChoice d.state = none) :
    d.settlePoint = d.cue .scrollDown := by
  simp [settlePoint, h]

theorem settlePoint_eq {n : Nat} (h : replayedChoice d.state = some n) :
    d.settlePoint = (((d.cue .scrollDown).cue .rule).modify fun s =>
      { s with log := s.log.takeDue.1, point := none }).submit n := by
  simp [settlePoint, h]

theorem settlePoint_of_some {n : Nat} (h : replayedChoice d.state = some n) :
    ∃ tail, Sequel { d.state with log := d.state.log.takeDue.1, point := none }
        d.settlePoint.state tail ∧ d.settlePoint.display = d.display ∧
      d.settlePoint.calls = d.calls ++ .cue .scrollDown :: .cue .rule ::
        .send (.continueWith n d.state.session) :: tail := by
  let taken := ((d.cue .scrollDown).cue .rule).modify fun s =>
    { s with log := s.log.takeDue.1, point := none }
  obtain ⟨tail, hsequel, hdisplay, hcalls⟩ :=
    taken.request_eq (.continueWith n d.state.session)
  rw [d.settlePoint_eq h]
  refine ⟨tail, hsequel, hdisplay, hcalls.trans ?_⟩
  simp [taken]

/-! ### Selections -/

omit [Frontend F] in
theorem refusal?_eq_none_iff {s : PlayState} {session : SessionId} {n : Nat} :
    refusal? s session n = none ↔ session = s.session ∧ s.phase = .running ∧
      ∃ p, s.point = some p ∧ p.replayed = false ∧ ∃ c ∈ p.choices, c.number = n := by
  unfold refusal?
  by_cases hsession : session = s.session
  · cases hpoint : s.point with
    | none => simp [hsession]
    | some p =>
      by_cases hrunning : s.phase = .running <;> by_cases hp : p.replayed <;>
        simp [hsession, hrunning, hp]
  · simp [hsession]

theorem select_of_refused {session : SessionId} {n : Nat} {e : Refusal}
    (h : refusal? d.state session n = some e) : d.select session n = (d, .error e) := by
  simp [select, h]

theorem select_eq {session : SessionId} {n : Nat} (h : refusal? d.state session n = none) :
    d.select session n =
      ((d.modify fun s => { s with log := (s.log.add n).1, point := none }).submit n, .ok ()) := by
  simp [select, h]

theorem select_of_offered {session : SessionId} {n : Nat}
    (h : refusal? d.state session n = none) :
    ∃ tail, Sequel { d.state with log := (d.state.log.add n).1, point := none }
        (d.select session n).1.state tail ∧
      (d.select session n).1.display = d.display ∧ (d.select session n).2 = .ok () ∧
      (d.select session n).1.calls =
        d.calls ++ .send (.continueWith n d.state.session) :: tail := by
  let logged := d.modify fun s => { s with log := (s.log.add n).1, point := none }
  obtain ⟨tail, hsequel, hdisplay, hcalls⟩ :=
    logged.request_eq (.continueWith n d.state.session)
  rw [d.select_eq h]
  exact ⟨tail, hsequel, hdisplay, rfl, hcalls⟩

theorem visitNextIssue_eq :
    d.visitNextIssue.1.state = { d.state with issues := d.state.issues.selectNext.1 } ∧
      d.visitNextIssue.1.display = d.display ∧
      d.visitNextIssue.1.calls = d.calls ++
        (d.state.issues.selectNext.2.map fun x => Call.cue (.moveTo x.line 0)).toList := by
  cases hfound : d.state.issues.selectNext.2 with
  | none => simp [visitNextIssue, d.state.issues.selectNext_of_none hfound]
  | some x =>
    have hnext : d.state.issues.selectNext = (d.state.issues.selectNext.1, some x) :=
      Prod.ext rfl hfound
    rw [visitNextIssue, hnext]
    simp

/-- The calls that put the list of issues in the middle again. -/
def centreCalls : List Call :=
  if d.display.listVisible then [.cue (.placeList (IssueDisplay.centredLeft d.front))] else []

theorem centreCalls_cases :
    d.centreCalls = [] ∨ ∃ left, d.centreCalls = [.cue (.placeList left)] := by
  rw [centreCalls]
  split
  · exact .inr ⟨_, rfl⟩
  · exact .inl rfl

theorem calls_centreList : d.centreList.calls = d.calls ++ d.centreCalls := by
  by_cases h : d.display.listVisible <;>
    simp [centreList, IssueDisplay.centre, centreCalls, calls, h]

end Director

end Playthrough
