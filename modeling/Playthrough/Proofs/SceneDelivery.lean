import Playthrough.Proofs.Delivery
import Playthrough.Proofs.IssueOrder
import Playthrough.Proofs.LogPath

/-!
# A scene is delivered

The storyteller plays a scene, and its events are delivered one after the other. The remarks are
shown. Then the scene is over, or a decision point is offered: if the log has a choice that is due,
it is submitted, and the storyteller plays the scene behind it; otherwise the choices are shown, and
the rehearsal is settled. So from the beginning of a scene on, what is delivered is a telling along
the choices that remain in the log.

## Main definitions

* `texts` — the texts shown in some calls.
* `ChoiceLog.remaining` — the choices of the log that are still to be taken.
* `Midway` — a rehearsal in which a session has heard some remarks and submitted some choices.
* `Tells` — a settled rehearsal that has heard a whole telling.
* `Awaits` — a rehearsal in which a scene that was played waits to be delivered.

## Main results

* `Awaits.play` — from the beginning of a scene on, the remaining choices are told.
-/

namespace Playthrough

/-! ### Texts -/

/-- The text that a call shows. -/
def Call.text? : Call → Option String
  | .cue (.say text _) => some text
  | _ => none

/-- The texts shown in some calls. -/
def texts (cs : List Call) : List String :=
  cs.filterMap Call.text?

@[simp] theorem texts_nil : texts [] = [] := rfl

@[simp] theorem texts_append (cs cs' : List Call) : texts (cs ++ cs') = texts cs ++ texts cs' :=
  List.filterMap_append

theorem texts_updateCalls (old new : List Marker) (l : IssueList) (left : Float) :
    texts (IssueDisplay.updateCalls old l new left) = [] := by
  rw [texts, IssueDisplay.filterMap_updateCalls]
  rcases IssueDisplay.tallyCue_cases l.tally with h | h <;>
    simp [Call.text?, IssueDisplay.markCall, h]

theorem texts_failureCalls (x : Diagnostic) : texts (Director.failureCalls x) = [] := by
  rcases Director.failureCalls_cases x with hx | hx <;> rw [hx] <;> rfl

theorem texts_openingCalls (s : PlayState) (v : IssueDisplay) :
    texts (Director.openingCalls s v) = [] := by
  have hclear : texts (IssueDisplay.clearCalls v.markers) = [] := by
    rw [← IssueDisplay.updateCalls_clear v.markers [] {} 0]
    exact texts_updateCalls _ _ _ _
  have hstop : texts (Director.stopCalls s) = [] := by
    rcases Director.stopCalls_cases s with hs | hs <;> rw [hs] <;> rfl
  rw [Director.openingCalls, texts_append, hstop, List.nil_append]
  exact hclear

/-- The texts among some remarks. -/
def textsOf (remarks : List Remark) : List String :=
  remarks.filterMap Remark.text?

/-- The diagnostics among some remarks. -/
def diagnosticsOf (remarks : List Remark) : List Diagnostic :=
  remarks.filterMap Remark.diagnostic?

@[simp] theorem textsOf_append (xs ys : List Remark) :
    textsOf (xs ++ ys) = textsOf xs ++ textsOf ys :=
  List.filterMap_append

@[simp] theorem diagnosticsOf_append (xs ys : List Remark) :
    diagnosticsOf (xs ++ ys) = diagnosticsOf xs ++ diagnosticsOf ys :=
  List.filterMap_append

/-! ### What remains of the log -/

namespace ChoiceLog

/-- The choices that are still to be taken. -/
def remaining (log : ChoiceLog) : List Nat :=
  match log.cursor with
  | .live => []
  | .next i => log.choices.drop i

variable {log : ChoiceLog}

theorem remaining_of_live (h : log.cursor = .live) : log.remaining = [] := by
  rw [remaining, h]

theorem remaining_rewound (log : ChoiceLog) : log.rewound.remaining = log.choices := by
  by_cases hempty : log.choices = []
  · simp [rewound, remaining, hempty]
  · simp [rewound, remaining, hempty]

theorem due_eq_head? (log : ChoiceLog) : log.due = log.remaining.head? := by
  unfold due remaining
  cases log.cursor with
  | live => rfl
  | next i => simp

theorem remaining_takeDue {n : Nat} {rest : List Nat} (h : log.remaining = n :: rest) :
    log.takeDue.1.remaining = rest := by
  have hdue : log.due = some n := by rw [due_eq_head?, h, List.head?_cons]
  obtain ⟨i, hcursor, -, htake⟩ := takeDue_eq hdue
  have hdrop : log.choices.drop i = n :: rest := by
    rw [remaining, hcursor] at h
    exact h
  rw [htake]
  show log.choices.drop (i + 1) = rest
  rw [← List.tail_drop, hdrop, List.tail_cons]

end ChoiceLog

/-! ### One event -/

namespace Rehearsal

variable {r : Rehearsal} {e : Event} {rest : List Reply} {cs : List Call}

/-- An event that the running session hears is performed, and what the storyteller says to it comes
last in the inbox. -/
theorem advance_of_heard (hout : r.director.storyteller.output = [])
    (hinbox : r.inbox = ⟨r.state.session, e⟩ :: rest) (hrunning : r.state.phase = .running) :
    r.advance.state = (r.director.perform e).state ∧
      r.advance.calls = (r.director.perform e).calls ∧
      r.advance.inbox = rest ++ (r.director.perform e).storyteller.output ∧
      r.advance.director.storyteller =
        { (r.director.perform e).storyteller with output := [] } := by
  have hcollect : r.collect = r := collect_of_output_eq_nil hout
  have hreceive : (r.director.receive ⟨r.state.session, e⟩).1 = r.director.perform e := by
    rw [r.director.receive_of_hears ⟨hrunning, rfl⟩]
  let next : Rehearsal := ({ r with inbox := rest }.onReply ⟨r.state.session, e⟩).1
  have hnext : next.director = r.director.perform e := hreceive
  have hadvance : r.advance = next.collect := by
    rw [advance_of_cons (by rw [hcollect, hinbox]), hcollect]
  rw [hadvance, ← hnext]
  exact ⟨rfl, rfl, rfl, rfl⟩

/-- An event that leads to no request leaves the storyteller alone. -/
theorem advance_of_unasked (hout : r.director.storyteller.output = [])
    (hinbox : r.inbox = ⟨r.state.session, e⟩ :: rest) (hrunning : r.state.phase = .running)
    (hcalls : (r.director.perform e).calls = r.calls ++ cs) (hrequests : requests cs = []) :
    r.advance.state = (r.director.perform e).state ∧ r.advance.calls = r.calls ++ cs ∧
      r.advance.inbox = rest ∧ r.advance.director.storyteller = r.director.storyteller := by
  obtain ⟨hstate, hcalls', hinbox', hst'⟩ := advance_of_heard hout hinbox hrunning
  have hst := Director.storyteller_of_kept hcalls fun P hP h => hP.perform h e
  rw [hrequests, Storyteller.sendAll_nil] at hst
  refine ⟨hstate, hcalls'.trans hcalls, ?_, ?_⟩
  · rw [hinbox', hst, hout, List.append_nil]
  · rw [hst', hst, ← hout]

end Rehearsal

/-! ### In the middle of a session -/

/-- A rehearsal in the middle of a session, behind the calls `base`. The storyteller `st` has no
output, the log and the open decision point are `log` and `point`, and the session has heard some
remarks and submitted some choices. -/
structure Midway (base : List Call) (st : Storyteller) (session : SessionId) (log : ChoiceLog)
    (point : Option DecisionPoint) (remarks : List Remark) (sent : List Nat) (r : Rehearsal) :
    Prop where
  storyteller : r.director.storyteller = st
  output : st.output = []
  session : r.state.session = session
  running : r.state.phase = .running
  log : r.state.log = log
  point : r.state.point = point
  arrived : r.state.issues.arrived = (diagnosticsOf remarks).eraseDups
  calls : ∃ cs, r.calls = base ++ cs ∧ texts cs = textsOf remarks ∧ submissions cs = sent

namespace Midway

variable {base : List Call} {st : Storyteller} {session : SessionId} {log : ChoiceLog}
  {point : Option DecisionPoint} {remarks : List Remark} {sent : List Nat} {r : Rehearsal}
  {rest : List Reply}

/-- An event that leads to no request takes the rehearsal on by what is said in it. -/
theorem advance {e : Event} {s' : PlayState} {cs : List Call} {said : List Remark}
    (h : Midway base st session log point remarks sent r)
    (hinbox : r.inbox = ⟨session, e⟩ :: rest) (hstate : (r.director.perform e).state = s')
    (hsession : s'.session = r.state.session) (hrunning : s'.phase = .running)
    (harrived : s'.issues.arrived = (diagnosticsOf (remarks ++ said)).eraseDups)
    (hcalls : (r.director.perform e).calls = r.calls ++ cs) (hrequests : requests cs = [])
    (htexts : texts cs = textsOf said) (hsubmissions : submissions cs = []) :
    Midway base st session s'.log s'.point (remarks ++ said) sent r.advance ∧
      r.advance.inbox = rest := by
  have hout : r.director.storyteller.output = [] := by rw [h.storyteller, h.output]
  rw [← h.session] at hinbox
  obtain ⟨hstate', hcalls', hinbox', hst⟩ :=
    Rehearsal.advance_of_unasked hout hinbox h.running hcalls hrequests
  rw [hstate] at hstate'
  obtain ⟨cs₀, hbase, htexts₀, hsent⟩ := h.calls
  refine ⟨⟨hst.trans h.storyteller, h.output, ?_, ?_, ?_, ?_, ?_, cs₀ ++ cs, ?_, ?_, ?_⟩, hinbox'⟩
  · rw [hstate', hsession, h.session]
  · rw [hstate', hrunning]
  · rw [hstate']
  · rw [hstate']
  · rw [hstate', harrived]
  · rw [hcalls', hbase, List.append_assoc]
  · rw [texts_append, htexts₀, htexts, textsOf_append]
  · rw [submissions_append, hsent, hsubmissions, List.append_nil]

theorem advance_remark {x : Remark} (h : Midway base st session log point remarks sent r)
    (hinbox : r.inbox = ⟨session, x.event⟩ :: rest) :
    Midway base st session log point (remarks ++ [x]) sent r.advance ∧ r.advance.inbox = rest := by
  have hlog := h.log
  have hpoint := h.point
  subst hlog hpoint
  cases x with
  | text t =>
    refine h.advance hinbox rfl rfl h.running ?_ rfl rfl rfl rfl
    rw [diagnosticsOf_append, h.arrived]
    exact congrArg List.eraseDups (List.append_nil _).symm
  | diagnostic x =>
    have harrived : (diagnosticsOf (remarks ++ [.diagnostic x])).eraseDups =
        if x ∈ r.state.issues.arrived then r.state.issues.arrived
        else r.state.issues.arrived ++ [x] := by
      rw [h.arrived, diagnosticsOf_append]
      exact eraseDups_append_singleton _ x
    by_cases hx : x ∈ r.state.issues.arrived
    · obtain ⟨hstate, -, hcalls⟩ := r.director.addDiagnostic_of_mem hx
      have htexts : texts (Director.failureCalls x) = textsOf [.diagnostic x] :=
        texts_failureCalls x
      have hnext := h.advance hinbox hstate rfl h.running (by rw [harrived, if_pos hx]; rfl)
        hcalls (Director.requests_failureCalls x) htexts
        (submissions_eq_nil fun c => Director.isQuiet_of_mem_failureCalls)
      exact hnext
    · obtain ⟨issues, new, left, rfl, -, hstate, -, hcalls⟩ :=
        r.director.addDiagnostic_of_not_mem hx
      have hnext := h.advance hinbox hstate rfl h.running (by rw [harrived, if_neg hx]; rfl)
        hcalls ?_ ?_ ?_
      · exact hnext
      · rw [requests_append, Director.requests_failureCalls, IssueDisplay.requests_updateCalls]
        rfl
      · rw [texts_append, texts_failureCalls, texts_updateCalls]
        rfl
      · refine submissions_eq_nil fun c hc => ?_
        rcases List.mem_append.mp hc with hc | hc
        · exact Director.isQuiet_of_mem_failureCalls hc
        · exact IssueDisplay.isQuiet_of_mem_updateCalls hc

/-- All remarks of a scene are delivered. -/
theorem advance_remarks {xs : List Remark} (h : Midway base st session log point remarks sent r)
    (hinbox : r.inbox = (xs.map Remark.event).map (⟨session, ·⟩) ++ rest) :
    ∃ count, Midway base st session log point (remarks ++ xs) sent (Rehearsal.advance^[count] r) ∧
      (Rehearsal.advance^[count] r).inbox = rest := by
  induction xs generalizing remarks r with
  | nil => exact ⟨0, by simpa using h, hinbox⟩
  | cons x xs ih =>
    obtain ⟨hnext, hrest⟩ := h.advance_remark hinbox
    obtain ⟨count, hlast, hinbox'⟩ := ih hnext hrest
    refine ⟨count + 1, ?_, ?_⟩
    · rw [Function.iterate_succ_apply]
      simpa using hlast
    · rw [Function.iterate_succ_apply]
      exact hinbox'

/-! ### A decision point is offered -/

theorem advance_choice {c : Choice} {s₁ : PlayState} {p : DecisionPoint}
    (h : Midway base st session log point remarks sent r)
    (hopen : Director.openPoint r.state = (s₁, p))
    (hinbox : r.inbox = ⟨session, .choice c⟩ :: rest) :
    Midway base st session s₁.log (some { p with choices := p.choices ++ [c] }) remarks sent
        r.advance ∧ r.advance.inbox = rest := by
  obtain ⟨hstate, -, hcalls⟩ := r.director.addChoice_eq c
  have hopen' : Director.openPoint r.director.state = (s₁, p) := hopen
  have hs₁ : s₁ = { r.state with log := s₁.log } := by
    have hfst := Director.openPoint_fst r.state
    rwa [hopen] at hfst
  rw [hopen'] at hstate hcalls
  have harrived : s₁.issues.arrived = (diagnosticsOf (remarks ++ [])).eraseDups := by
    rw [hs₁, List.append_nil]
    exact h.arrived
  have hnext := h.advance hinbox hstate (by rw [hs₁]) (by rw [hs₁]; exact h.running) harrived
    hcalls ?_ ?_ ?_
  · rw [List.append_nil] at hnext
    exact hnext
  all_goals split <;> rfl

theorem advance_more_choices {p : DecisionPoint} {cs : List Choice}
    (h : Midway base st session log (some p) remarks sent r)
    (hinbox : r.inbox = (cs.map Event.choice).map (⟨session, ·⟩) ++ rest) :
    ∃ count, Midway base st session log (some { p with choices := p.choices ++ cs }) remarks sent
        (Rehearsal.advance^[count] r) ∧
      (Rehearsal.advance^[count] r).inbox = rest := by
  induction cs generalizing p r with
  | nil => exact ⟨0, by simpa using h, hinbox⟩
  | cons c cs ih =>
    have hopen : Director.openPoint r.state = (r.state, p) := by
      rw [Director.openPoint, h.point]
    obtain ⟨hnext, hrest⟩ := h.advance_choice hopen hinbox
    rw [h.log] at hnext
    obtain ⟨count, hlast, hinbox'⟩ := ih hnext hrest
    refine ⟨count + 1, ?_, ?_⟩
    · rw [Function.iterate_succ_apply]
      simpa using hlast
    · rw [Function.iterate_succ_apply]
      exact hinbox'

/-- All choices of a decision point are offered: to the log, if it has one that is due, and
otherwise to the person at the keyboard. -/
theorem advance_choices {cs : List Choice}
    (h : Midway base st session log none remarks sent r) (hcs : cs ≠ [])
    (hinbox : r.inbox = (cs.map Event.choice).map (⟨session, ·⟩) ++ rest) :
    ∃ count p, (Rehearsal.advance^[count] r).inbox = rest ∧
      p.choices = cs ∧ p.replayed = log.due.isSome ∧
      Midway base st session (if log.due.isSome then log else log.goLive.1) (some p) remarks sent
        (Rehearsal.advance^[count] r) := by
  cases cs with
  | nil => contradiction
  | cons c cs =>
    obtain ⟨p, hopen, hchoices, hreplayed⟩ := Director.openPoint_of_none h.point
    rw [h.log] at hopen hreplayed
    obtain ⟨hnext, hrest⟩ := h.advance_choice hopen hinbox
    obtain ⟨count, hlast, hinbox'⟩ := hnext.advance_more_choices hrest
    refine ⟨count + 1, { p with choices := c :: cs }, ?_, rfl, hreplayed, ?_⟩
    · rw [Function.iterate_succ_apply]
      exact hinbox'
    · rw [Function.iterate_succ_apply]
      simpa [hchoices] using hlast

end Midway

/-! ### A telling is heard -/

/-- A settled rehearsal in which the session that began behind the calls `base` has heard a telling
from a source along the choices `ns` of its log. -/
structure Tells (source : Source) (base : List Call) (ns : List Nat) (t : Telling) (r : Rehearsal) :
    Prop where
  settled : r.IsSettled
  isOpen : r.director.storyteller.closed = false
  source : r.director.storyteller.source source.content = source
  choices : r.state.log.choices = ns
  live : t.halt.phase = .running → r.state.log.cursor = .live
  position : r.director.storyteller.position? r.state.session = t.halt.position?
  phase : r.state.phase = t.halt.phase
  selectable : r.state.selectable = t.halt.choices
  arrived : r.state.issues.arrived = (diagnosticsOf t.remarks).eraseDups
  calls : ∃ cs, r.calls = base ++ cs ∧ texts cs = textsOf t.remarks ∧ submissions cs = t.choices

namespace Midway

variable {base : List Call} {st : Storyteller} {session : SessionId} {log : ChoiceLog}
  {point : Option DecisionPoint} {remarks : List Remark} {sent : List Nat} {r : Rehearsal}
  {rest : List Reply} {source : Source}

/-- The story is over. -/
theorem tells_of_ended {ending : Ending} (h : Midway base st session log none remarks sent r)
    (hopen : st.closed = false) (hsource : st.source source.content = source)
    (hposition : st.position? session = none) (hinbox : r.inbox = [⟨session, ending.event⟩]) :
    Tells source base log.choices ⟨remarks, sent, .ended ending⟩ r.advance := by
  have hout : r.director.storyteller.output = [] := by rw [h.storyteller, h.output]
  rw [← h.session] at hinbox
  obtain ⟨cs₀, hbase, htexts₀, hsent⟩ := h.calls
  obtain ⟨said, termination, hperform⟩ : ∃ said termination,
      r.director.perform ending.event = r.director.conclude ending.phase said termination := by
    cases ending
    · exact ⟨_, _, rfl⟩
    · exact ⟨_, _, rfl⟩
  have hcalls : (r.director.perform ending.event).calls =
      r.calls ++ [.cue (.sayEnd said termination)] := by
    rw [hperform]
    rfl
  obtain ⟨hstate, hcalls', hinbox', hst⟩ :=
    Rehearsal.advance_of_unasked hout hinbox h.running hcalls rfl
  have hst' : r.advance.director.storyteller = st := hst.trans h.storyteller
  have hstate' : r.advance.state = { r.state with phase := ending.phase, point := none } := by
    rw [hstate, hperform]
    rfl
  exact {
    settled := ⟨hinbox', by rw [hst', h.output]⟩
    isOpen := by rw [hst', hopen]
    source := by rw [hst', hsource]
    choices := by rw [hstate', ← h.log]
    live := fun hrunning => by cases ending <;> contradiction
    position := by rw [hst', hstate']; exact h.session ▸ hposition
    phase := by rw [hstate']; rfl
    selectable := by rw [hstate']; rfl
    arrived := by rw [hstate', ← h.arrived]
    calls := ⟨cs₀ ++ _, by rw [hcalls', hbase, List.append_assoc],
      by rw [texts_append, htexts₀]; exact List.append_nil _,
      by rw [submissions_append, hsent]; exact List.append_nil _⟩ }

/-- The choices of a decision point are shown. -/
theorem tells_of_shown {p : DecisionPoint} {index : Nat} {offered : p.choices ≠ []}
    (h : Midway base st session log (some p) remarks sent r) (hshown : p.replayed = false)
    (hlive : log.cursor = .live) (hopen : st.closed = false)
    (hsource : st.source source.content = source) (hposition : st.position? session = some index)
    (hinbox : r.inbox = [⟨session, .inputRequired⟩]) :
    Tells source base log.choices ⟨remarks, sent, .point index p.choices offered⟩ r.advance := by
  have hnone : Director.replayedChoice r.director.state = none := by
    have hpoint : r.director.state.point = some p := h.point
    rw [Director.replayedChoice, hpoint]
    simp [hshown]
  have hperform : r.director.perform .inputRequired = r.director.cue .scrollDown :=
    r.director.settlePoint_of_none hnone
  have hcalls : (r.director.perform .inputRequired).calls = r.calls ++ [.cue .scrollDown] := by
    rw [hperform]
    rfl
  have harrived : r.state.issues.arrived = (diagnosticsOf (remarks ++ [])).eraseDups := by
    rw [List.append_nil]
    exact h.arrived
  obtain ⟨hnext, hinbox'⟩ := h.advance hinbox (by rw [hperform]; rfl) rfl h.running harrived
    hcalls rfl rfl rfl
  rw [List.append_nil] at hnext
  have hst := hnext.storyteller
  have hpoint : r.advance.state.point = some p := hnext.point.trans h.point
  exact {
    settled := ⟨hinbox', by rw [hst, hnext.output]⟩
    isOpen := by rw [hst, hopen]
    source := by rw [hst, hsource]
    choices := by rw [hnext.log, h.log]
    live := fun _ => by rw [hnext.log, h.log, hlive]
    position := by rw [hst, hnext.session, hposition]; rfl
    phase := hnext.running
    selectable := by simp [PlayState.selectable, hpoint, hshown, Halt.choices]
    arrived := hnext.arrived
    calls := hnext.calls }

/-- The choice that is due is taken, and the storyteller plays the scene behind it. -/
theorem advance_due {p : DecisionPoint} {index n : Nat} {ns : List Nat}
    (h : Midway base st session log (some p) remarks sent r) (hreplayed : p.replayed = true)
    (hremaining : log.remaining = n :: ns) (hopen : st.closed = false)
    (hposition : st.position? session = some index)
    (hinbox : r.inbox = [⟨session, .inputRequired⟩]) :
    ∃ st', Storyteller.Plays session (st.script.sceneAfter index n) st st' ∧
      Midway base { st' with output := [] } session log.takeDue.1 none remarks (sent ++ [n])
        r.advance ∧
      r.advance.inbox = (st.script.sceneAfter index n).events.map (⟨session, ·⟩) := by
  have hout : r.director.storyteller.output = [] := by rw [h.storyteller, h.output]
  have hdue : Director.replayedChoice r.director.state = some n := by
    have hpoint : r.director.state.point = some p := h.point
    have hlog : r.director.state.log = log := h.log
    have htaken : log.takeDue.2 = some n := by
      rw [ChoiceLog.takeDue_snd, ChoiceLog.due_eq_head?, hremaining, List.head?_cons]
    simp only [Director.replayedChoice, hpoint, hreplayed, hlog, htaken, if_true]
  obtain ⟨hstate, hcalls⟩ :=
    Director.settlePoint_of_open (h.storyteller.symm ▸ hopen) h.running hdue
  have hst : r.director.settlePoint.storyteller = (st.send (.continueWith n session)).1 := by
    rw [Director.storyteller_of_kept hcalls fun P hP h => hP.settlePoint h, h.storyteller,
      ← h.session]
    rfl
  have hplays := st.plays_send_continueWith session hopen hposition n
  rw [← h.session] at hinbox
  obtain ⟨hstate', hcalls', hinbox', hst'⟩ := Rehearsal.advance_of_heard hout hinbox h.running
  have hlater : r.advance.state =
      { r.state with log := r.state.log.takeDue.1, point := none } := hstate'.trans hstate
  obtain ⟨cs₀, hbase, htexts₀, hsent⟩ := h.calls
  let made : List Call := [.cue .scrollDown, .cue .rule, .send (.continueWith n r.state.session)]
  refine ⟨_, hplays, ⟨?_, rfl, ?_, ?_, ?_, ?_, ?_, cs₀ ++ made, ?_, ?_, ?_⟩, ?_⟩
  · exact hst'.trans (congrArg (fun st : Storyteller => { st with output := [] }) hst)
  · rw [hlater, ← h.session]
  · rw [hlater, ← h.running]
  · rw [hlater, ← h.log]
  · rw [hlater]
  · rw [hlater, ← h.arrived]
  · refine (hcalls'.trans hcalls).trans ?_
    rw [← List.append_assoc, ← hbase]
    rfl
  · rw [texts_append, htexts₀]
    exact List.append_nil _
  · rw [submissions_append, hsent]
    rfl
  · refine hinbox'.trans ?_
    show [] ++ r.director.settlePoint.storyteller.output = _
    rw [hst, hplays.output, h.output]
    rfl

end Midway

/-! ### A scene is played -/

/-- A rehearsal in the middle of a session in which a scene waits to be delivered: the storyteller,
which is open and has the source `source`, has played it. -/
structure Awaits (source : Source) (scene : Scene) (base : List Call) (st : Storyteller)
    (current : SessionId) (log : ChoiceLog) (remarks : List Remark) (sent : List Nat)
    (r : Rehearsal) : Prop extends Midway base st current log none remarks sent r where
  isOpen : st.closed = false
  source : st.source source.content = source
  position : st.position? current = scene.halt.position?
  inbox : r.inbox = scene.events.map (⟨current, ·⟩)

section

variable {base : List Call} {st st' : Storyteller} {session : SessionId} {log : ChoiceLog}
  {remarks : List Remark} {sent : List Nat} {r : Rehearsal} {source : Source} {scene : Scene}

/-- After a storyteller played a scene, the scene waits. -/
theorem Midway.awaits (h : Midway base { st' with output := [] } session log none remarks sent r)
    (hplays : Storyteller.Plays session scene st st') (hopen : st.closed = false)
    (hsource : st.source source.content = source)
    (hinbox : r.inbox = scene.events.map (⟨session, ·⟩)) :
    Awaits source scene base { st' with output := [] } session log remarks sent r :=
  ⟨h, hplays.closed.trans hopen, (hplays.source_eq _).trans hsource, hplays.position, hinbox⟩

namespace Awaits

/-- A scene behind which the story is over. -/
theorem play_ended {ending : Ending} (h : Awaits source scene base st session log remarks sent r)
    (hhalt : scene.halt = .ended ending) :
    ∃ count, Tells source base log.choices ⟨remarks ++ scene.remarks, sent, .ended ending⟩
      (Rehearsal.advance^[count] r) := by
  have hinbox := h.inbox
  have hposition := h.position
  rw [Scene.events, List.map_append, hhalt] at hinbox
  rw [hhalt] at hposition
  obtain ⟨count, hheard, hrest⟩ := h.advance_remarks hinbox
  refine ⟨1 + count, ?_⟩
  rw [Function.iterate_add_apply]
  exact hheard.tells_of_ended h.isOpen h.source hposition hrest

/-- A scene that leads to a decision point, up to the request for input. -/
theorem play_to_point {index : Nat} {cs : List Choice} {offered : cs ≠ []}
    (h : Awaits source scene base st session log remarks sent r)
    (hhalt : scene.halt = .point index cs offered) :
    ∃ count p, (Rehearsal.advance^[count] r).inbox = [⟨session, .inputRequired⟩] ∧
      p.choices = cs ∧ p.replayed = log.due.isSome ∧
      Midway base st session (if log.due.isSome then log else log.goLive.1) (some p)
        (remarks ++ scene.remarks) sent (Rehearsal.advance^[count] r) := by
  have hinbox := h.inbox
  rw [Scene.events, List.map_append, hhalt, Halt.events, List.map_append] at hinbox
  obtain ⟨count, hheard, hrest⟩ := h.advance_remarks hinbox
  obtain ⟨count', p, hrest', hchoices, hreplayed, hoffered⟩ := hheard.advance_choices offered hrest
  refine ⟨count' + count, p, ?_, hchoices, hreplayed, ?_⟩
  · rw [Function.iterate_add_apply]
    exact hrest'
  · rw [Function.iterate_add_apply]
    exact hoffered

/-- From the beginning of a scene on, the remaining choices are told. -/
theorem play {ns : List Nat} (h : Awaits source scene base st session log remarks sent r)
    (htracks : log.Tracks sent) (hremaining : log.remaining = ns) :
    ∃ count, Tells source base log.choices
      ⟨remarks ++ scene.remarks ++ (source.script.goOn scene.halt ns).remarks,
        sent ++ (source.script.goOn scene.halt ns).choices,
        (source.script.goOn scene.halt ns).halt⟩ (Rehearsal.advance^[count] r) := by
  have hposition := h.position
  induction ns generalizing scene st log remarks sent r with
  | nil =>
    rw [Script.goOn_nil]
    simp only [List.append_nil]
    cases hhalt : scene.halt with
    | ended ending => exact h.play_ended hhalt
    | point index cs offered =>
      rw [hhalt] at hposition
      have hdue : log.due = none := by rw [ChoiceLog.due_eq_head?, hremaining, List.head?_nil]
      obtain ⟨count, p, hrest, rfl, hreplayed, hoffered⟩ := h.play_to_point hhalt
      rw [hdue] at hreplayed hoffered
      refine ⟨1 + count, ?_⟩
      rw [Function.iterate_add_apply, ← log.choices_goLive]
      exact hoffered.tells_of_shown hreplayed (htracks.cursor_goLive hdue) h.isOpen h.source
        hposition hrest
  | cons n ns ih =>
    cases hhalt : scene.halt with
    | ended ending =>
      simpa using h.play_ended hhalt
    | point index cs offered =>
      rw [hhalt] at hposition
      have hdue : log.due = some n := by rw [ChoiceLog.due_eq_head?, hremaining, List.head?_cons]
      have hscript : st.script = source.script := congrArg Source.script h.source
      obtain ⟨count, p, hrest, -, hreplayed, hoffered⟩ := h.play_to_point hhalt
      rw [hdue] at hreplayed hoffered
      obtain ⟨st', hplays, hnext, hinbox⟩ :=
        hoffered.advance_due hreplayed hremaining h.isOpen hposition hrest
      rw [hscript] at hplays hinbox
      have hawaits := hnext.awaits hplays h.isOpen h.source hinbox
      obtain ⟨count', htells⟩ := ih hawaits (htracks.takeDue hdue)
        (ChoiceLog.remaining_takeDue hremaining) hawaits.position
      refine ⟨count' + (1 + count), ?_⟩
      rw [Function.iterate_add_apply, Function.iterate_add_apply]
      rw [ChoiceLog.choices_takeDue] at htells
      simpa [Script.goOn] using htells

end Awaits

end

end Playthrough
