import Playthrough.Proofs.OfferedChoices
import Playthrough.Proofs.Retelling

/-!
# A selection reaches its decision point

The output of the storyteller is delivered one reply at a time, and choices may be selected in
between. A choice may be selected as soon as it has been offered, while the rest of its decision
point is still on its way. The storyteller then plays the next scene behind that rest. If choices
are among it, they open a decision point of their own, at which the story does not stand any more:
what is selected there is taken somewhere else.

As long as no choice is on its way when one is selected, this does not happen. What waits to be
delivered is then always one of two things: a scene, with at most one request for input in front of
it, or the rest of the decision point at which the story stands.

## Main definitions

* `Beat`, `Rehearsal.beat`, `Rehearsal.perform` — what happens in a rehearsal, one reply at a time.
* `Rehearsal.waiting` — the events of the current session that wait to be delivered.
* `Stands` — how the state of a play and the storyteller fit what waits.
* `Rehearsal.Patient` — no choice is on its way when one is selected.

## Main results

* `Stands.perform`, `Stands.select` — what an event and a selection make of this.
* `selection_reaches_point` — what is selected is taken at the point where it was offered.
* `early_selection_misses_point` — an earlier selection may have been made too early for that.
-/

namespace Playthrough

/-! ### Where a story stands, and what waits -/

/-- How the state of a play and the storyteller fit the events that wait. The last case tells
whether input was required, in the sense of `asked`. -/
inductive Stands (script : Script) (asked : Prop) (s : PlayState) (st : Storyteller) :
    List Event → Prop where
  /-- The storyteller is closed, or the session has ended. -/
  | finished {waiting : List Event} (h : st.closed = true ∨ s.phase ≠ .running) :
      Stands script asked s st waiting
  /-- A scene is on its way. The request for input of the last decision point may be too. -/
  | scene (lead : List Event) (scene : Scene) (point : s.point = none)
      (isOf : scene.halt.IsOf script) (position : st.position? s.session = scene.halt.position?)
      (settled : lead = [] ∨ lead = [.inputRequired]) :
      Stands script asked s st (lead ++ scene.events)
  /-- The story stands at a decision point. Some of its choices were offered, and the other ones are
  on their way. -/
  | offering (p : DecisionPoint) (index : Nat) (passage : Passage) (rest : List Choice)
      (point : s.point = some p) (position : st.position? s.session = some index)
      (isAt : script.passages[index]? = some passage)
      (choices : passage.choices = p.choices ++ rest) :
      Stands script asked s st (rest.map .choice ++ [.inputRequired])
  /-- The story stands at a decision point, and input was required. -/
  | offered (p : DecisionPoint) (index : Nat) (passage : Passage) (point : s.point = some p)
      (position : st.position? s.session = some index)
      (isAt : script.passages[index]? = some passage) (choices : passage.choices = p.choices)
      (required : asked) : Stands script asked s st []

namespace Stands

variable {script : Script} {asked asked' : Prop} {s s' : PlayState} {st st' : Storyteller}
  {waiting : List Event}

theorem mono (h : Stands script asked s st waiting) (himp : asked → asked') :
    Stands script asked' s st waiting := by
  cases h with
  | finished h => exact .finished h
  | scene lead scene point isOf position settled =>
    exact .scene lead scene point isOf position settled
  | offering p index passage rest point position isAt choices =>
    exact .offering p index passage rest point position isAt choices
  | offered p index passage point position isAt choices required =>
    exact .offered p index passage point position isAt choices (himp required)

/-- Only the session, its phase, the open point, and what the storyteller knows of the session
matter. -/
theorem congr (h : Stands script asked s st waiting) (hsession : s'.session = s.session)
    (hphase : s'.phase = s.phase) (hpoint : s'.point = s.point) (hclosed : st'.closed = st.closed)
    (hposition : st'.position? s.session = st.position? s.session) :
    Stands script asked s' st' waiting := by
  rw [← hsession] at hposition
  cases h with
  | finished h => exact .finished (by rwa [hclosed, hphase])
  | scene lead scene point isOf position settled =>
    rw [← hsession] at position
    exact .scene lead scene (hpoint.trans point) isOf (hposition.trans position) settled
  | offering p index passage rest point position isAt choices =>
    rw [← hsession] at position
    exact .offering p index passage rest (hpoint.trans point) (hposition.trans position) isAt
      choices
  | offered p index passage point position isAt choices required =>
    rw [← hsession] at position
    exact .offered p index passage (hpoint.trans point) (hposition.trans position) isAt choices
      required

/-- Where a point is open, the story stands at it, and what waits is the rest of it, if anything. -/
theorem at_point (h : Stands script asked s st waiting) (hopen : st.closed = false)
    (hrunning : s.phase = .running) {p : DecisionPoint} (hp : s.point = some p) :
    ∃ index passage rest, st.position? s.session = some index ∧
      script.passages[index]? = some passage ∧ passage.choices = p.choices ++ rest ∧
      (waiting = rest.map .choice ++ [.inputRequired] ∨ waiting = [] ∧ asked) := by
  cases h with
  | finished h => simp [hopen, hrunning] at h
  | scene lead scene point => exact absurd (point.symm.trans hp) (by simp)
  | offering p' index passage rest point position isAt choices =>
    obtain rfl : p' = p := Option.some.inj (point.symm.trans hp)
    exact ⟨index, passage, rest, position, isAt, choices, .inl rfl⟩
  | offered p' index passage point position isAt choices required =>
    obtain rfl : p' = p := Option.some.inj (point.symm.trans hp)
    refine ⟨index, passage, [], position, isAt, ?_, .inr ⟨rfl, required⟩⟩
    rw [choices, List.append_nil]

end Stands

/-! ### An event is heard -/

namespace Director

variable {d : Director (Recorder Stage)} {e : Event} {cs : List Call}

/-- An event that leads to no request leaves the storyteller alone. -/
theorem storyteller_perform (hcalls : (d.perform e).calls = d.calls ++ cs)
    (hrequests : requests cs = []) : (d.perform e).storyteller = d.storyteller := by
  rw [storyteller_of_kept hcalls fun P hP h => hP.perform h e, hrequests, Storyteller.sendAll_nil]

/-- A remark changes nothing but the issues, and leads to no request. -/
theorem perform_remark (d : Director (Recorder Stage)) (x : Remark) :
    (∃ issues, (d.perform x.event).state = { d.state with issues }) ∧
      (d.perform x.event).storyteller = d.storyteller := by
  cases x with
  | text t => exact ⟨⟨_, rfl⟩, rfl⟩
  | diagnostic x =>
    by_cases hx : x ∈ d.state.issues.arrived
    · obtain ⟨hstate, -, hcalls⟩ := d.addDiagnostic_of_mem hx
      exact ⟨⟨_, hstate⟩, storyteller_perform hcalls (requests_failureCalls x)⟩
    · obtain ⟨issues, new, left, -, -, hstate, -, hcalls⟩ := d.addDiagnostic_of_not_mem hx
      refine ⟨⟨_, hstate⟩, storyteller_perform hcalls ?_⟩
      rw [requests_append, requests_failureCalls, IssueDisplay.requests_updateCalls]
      rfl

/-- A choice that is offered is added to the open point. -/
theorem perform_choice (d : Director (Recorder Stage)) (c : Choice) :
    (∃ p log, (d.perform (.choice c)).state = { d.state with log, point := some p } ∧
        p.choices = d.state.offered ++ [c]) ∧
      (d.perform (.choice c)).storyteller = d.storyteller := by
  obtain ⟨hstate, -, hcalls⟩ := d.addChoice_eq c
  rw [openPoint_fst] at hstate
  refine ⟨⟨_, _, hstate, ?_⟩, storyteller_perform hcalls ?_⟩
  · exact congrArg (· ++ [c]) (choices_openPoint d.state)
  · split <;> rfl

end Director

namespace Stands

variable {script : Script} {asked : Prop} {d : Director (Recorder Stage)} {e : Event}
  {es : List Event}

/-- What waits after an event was heard: the events behind it, and what the storyteller says. -/
def After (script : Script) (asked : Prop) (d d' : Director (Recorder Stage)) (es : List Event) :
    Prop :=
  Stands script asked d'.state d'.storyteller
    (es ++ eventsFor d.state.session d'.storyteller.output)

theorem after_of_silent {d' : Director (Recorder Stage)}
    (h : Stands script asked d'.state d'.storyteller es) (hout : d'.storyteller.output = []) :
    After script asked d d' es := by
  rw [After, hout]
  simpa [eventsFor] using h

theorem perform_remark (hout : d.storyteller.output = []) (x : Remark)
    (h : Stands script asked d.state d.storyteller es) :
    After script asked d (d.perform x.event) es := by
  obtain ⟨⟨issues, hstate⟩, hst⟩ := d.perform_remark x
  refine after_of_silent ?_ (by rw [hst, hout])
  rw [hst]
  exact h.congr (by rw [hstate]) (by rw [hstate]) (by rw [hstate]) rfl rfl

theorem perform_ending (hout : d.storyteller.output = []) (ending : Ending) :
    After script asked d (d.perform ending.event) es := by
  have hst : (d.perform ending.event).storyteller = d.storyteller := by cases ending <;> rfl
  refine after_of_silent (.finished (.inr ?_)) (by rw [hst, hout])
  cases ending <;> simp [Ending.event, Director.perform, Director.conclude]

/-- A choice is offered at the decision point where the story stands. -/
theorem perform_choice {c : Choice} {index : Nat} {passage : Passage} {rest : List Choice}
    (hout : d.storyteller.output = [])
    (hposition : d.storyteller.position? d.state.session = some index)
    (hpassage : script.passages[index]? = some passage)
    (hchoices : passage.choices = d.state.offered ++ c :: rest) :
    After script asked d (d.perform (.choice c)) (rest.map .choice ++ [.inputRequired]) := by
  obtain ⟨⟨p, log, hstate, hp⟩, hst⟩ := d.perform_choice c
  refine after_of_silent ?_ (by rw [hst, hout])
  rw [hstate, hst]
  refine .offering p index passage rest rfl hposition hpassage ?_
  rw [hp, hchoices, List.append_assoc]
  rfl

/-- Input is required at a point that the log does not answer. -/
theorem perform_rest (hout : d.storyteller.output = [])
    (hnone : Director.replayedChoice d.state = none)
    (h : Stands script asked d.state d.storyteller es) :
    After script asked d (d.perform .inputRequired) es := by
  have hperform : d.perform .inputRequired = d.cue .scrollDown := d.settlePoint_of_none hnone
  rw [hperform]
  exact after_of_silent h hout

/-- Input is required at a point that the log answers, and the scene behind its choice is played. -/
theorem perform_replay {n index : Nat} (hopen : d.storyteller.closed = false)
    (hscript : d.storyteller.script = script) (hrunning : d.state.phase = .running)
    (hout : d.storyteller.output = []) (hdue : Director.replayedChoice d.state = some n)
    (hposition : d.storyteller.position? d.state.session = some index) :
    After script asked d (d.perform .inputRequired) [] := by
  obtain ⟨hstate, hcalls⟩ := Director.settlePoint_of_open hopen hrunning hdue
  have hst : d.settlePoint.storyteller =
      (d.storyteller.send (.continueWith n d.state.session)).1 :=
    Director.storyteller_of_kept hcalls fun P hP h => hP.settlePoint h
  have hplays := d.storyteller.plays_send_continueWith d.state.session hopen hposition n
  rw [hscript] at hplays
  have hsaid : eventsFor d.state.session (d.perform .inputRequired).storyteller.output =
      (script.sceneAfter index n).events := by
    show eventsFor d.state.session d.settlePoint.storyteller.output = _
    rw [hst, hplays.output, hout, List.nil_append, eventsFor_map]
  rw [After, hsaid]
  refine .scene [] _ ?_ (script.isOf_sceneAfter index n) ?_ (.inl rfl)
  · show d.settlePoint.state.point = none
    rw [hstate]
  · show d.settlePoint.storyteller.position? d.settlePoint.state.session = _
    rw [hst, hstate]
    exact hplays.position

/-- The first event of a scene is heard: a remark, the ending, or the first choice of a point. -/
theorem perform_scene {scene : Scene} (hout : d.storyteller.output = [])
    (point : d.state.point = none) (isOf : scene.halt.IsOf script)
    (position : d.storyteller.position? d.state.session = scene.halt.position?)
    (hevents : scene.events = e :: es) : After script asked d (d.perform e) es := by
  obtain ⟨remarks, halt⟩ := scene
  cases remarks with
  | cons x xs =>
    obtain ⟨rfl, rfl⟩ := List.cons.inj hevents
    exact perform_remark hout x (.scene [] ⟨xs, halt⟩ point isOf position (.inl rfl))
  | nil =>
    cases halt with
    | ended ending =>
      obtain ⟨rfl, rfl⟩ := List.cons.inj hevents
      exact perform_ending hout ending
    | point index cs offered =>
      obtain ⟨passage, hpassage, rfl⟩ := isOf
      have hempty : d.state.offered = [] := by rw [PlayState.offered, point]
      cases hchoices : passage.choices with
      | nil => exact absurd hchoices offered
      | cons c rest =>
        simp only [Scene.events, Halt.events, hchoices] at hevents
        obtain ⟨rfl, rfl⟩ := List.cons.inj hevents
        exact perform_choice hout position hpassage (by rw [hchoices, hempty]; rfl)

/-- The first event that waits is heard. -/
theorem perform (hscript : d.storyteller.script = script) (hrunning : d.state.phase = .running)
    (hout : d.storyteller.output = []) (h : Stands script asked d.state d.storyteller (e :: es)) :
    After script (asked ∨ e = .inputRequired) d (d.perform e) es := by
  generalize hwaiting : e :: es = waiting at h
  cases hclosed : d.storyteller.closed with
  | true => exact .finished (.inl ((Stage.kept_setup script true).perform ⟨hscript, hclosed⟩ e).2)
  | false =>
  cases h with
  | finished h => simp [hclosed, hrunning] at h
  | scene lead scene point isOf position settled =>
    have hnone : Director.replayedChoice d.state = none := by rw [Director.replayedChoice, point]
    rcases settled with rfl | rfl
    · exact perform_scene hout point isOf position hwaiting.symm
    -- the request for input that was left over from the decision point before
    · obtain ⟨rfl, rfl⟩ := List.cons.inj hwaiting
      exact perform_rest hout hnone (.scene [] scene point isOf position (.inl rfl))
  | offering p index passage rest point position isAt choices =>
    have hoffered : d.state.offered = p.choices := by rw [PlayState.offered, point]
    cases rest with
    | nil =>
      obtain ⟨rfl, rfl⟩ := List.cons.inj hwaiting
      cases hdue : Director.replayedChoice d.state with
      | none =>
        refine perform_rest hout hdue (.offered p index passage point position isAt ?_ (.inr rfl))
        rw [choices, List.append_nil]
      | some n => exact perform_replay hclosed hscript hrunning hout hdue position
    | cons c rest =>
      obtain ⟨rfl, rfl⟩ := List.cons.inj hwaiting
      exact perform_choice hout position isAt (by rw [choices, hoffered])
  | offered p index passage point position isAt choices required => contradiction

end Stands

/-! ### A choice is selected -/

namespace Director

variable {d : Director (Recorder Stage)} {session : SessionId} {n : Nat}

theorem storyteller_select (h : refusal? d.state session n = none) :
    (d.select session n).1.storyteller =
      (d.storyteller.send (.continueWith n d.state.session)).1 := by
  obtain ⟨tail, hsequel, -, -, hcalls⟩ := d.select_of_offered h
  rw [storyteller_of_kept hcalls fun P hP h => hP.select h session n, requests_send,
    hsequel.requests_eq]
  rfl

end Director

namespace Stands

variable {script : Script} {asked : Prop} {d : Director (Recorder Stage)} {waiting : List Event}

/-- A choice is selected while none is on its way: the scene behind it comes next, after the request
for input if that is still to come. -/
theorem select {session : SessionId} {n : Nat} (hscript : d.storyteller.script = script)
    (h : Stands script asked d.state d.storyteller waiting)
    (hoffered : Director.refusal? d.state session n = none)
    (hpatient : ∀ c, Event.choice c ∉ waiting) :
    ∃ events : List Event, (d.select session n).1.storyteller.output =
        d.storyteller.output ++ events.map (Reply.mk session) ∧
      Stands script False (d.select session n).1.state (d.select session n).1.storyteller
        (waiting ++ events) := by
  obtain ⟨rfl, hrunning, p, hp, -⟩ := Director.refusal?_eq_none_iff.mp hoffered
  have hst := Director.storyteller_select hoffered
  cases hclosed : d.storyteller.closed with
  | true =>
    have hrefused : d.storyteller.send (.continueWith n d.state.session) =
        (d.storyteller, .error .closed) := by rw [Storyteller.send, if_pos hclosed]
    refine ⟨[], ?_, .finished (.inl ?_)⟩
    · rw [hst, hrefused]
      exact (List.append_nil _).symm
    · rw [hst, hrefused, hclosed]
  | false =>
    obtain ⟨hstate, -⟩ := Director.select_of_open hclosed hoffered
    -- the story stands at the open point, and at most its request for input is on its way
    obtain ⟨index, -, rest, hposition, -, -, hwaits⟩ := h.at_point hclosed hrunning hp
    have hsettled : waiting = [] ∨ waiting = [.inputRequired] := by
      rcases hwaits with hwaits | ⟨hwaits, -⟩
      · cases rest with
        | nil => exact .inr hwaits
        | cons c rest =>
          exact absurd (hwaits ▸ List.mem_append_left _ List.mem_cons_self) (hpatient c)
      · exact .inl hwaits
    have hplays :=
      d.storyteller.plays_send_continueWith d.state.session hclosed hposition n
    rw [hscript, ← hst] at hplays
    refine ⟨(script.sceneAfter index n).events, hplays.output, ?_⟩
    refine .scene waiting _ ?_ (script.isOf_sceneAfter index n) ?_ hsettled
    · rw [hstate]
    · rw [hstate]
      exact hplays.position

end Stands

/-! ### Beats -/

/-- What happens in a rehearsal, one reply at a time. -/
inductive Beat where
  | order (o : Order)
  /-- The first reply that waits is delivered. -/
  | deliver
  | edit (source : Source)
  /-- The storyteller refuses all further requests. -/
  | close

/-- Whether a session and its script are left as they are. -/
def Beat.Continues (script : Script) : Beat → Prop
  | .order o => o.isStart = false
  | .edit source => source.script = script
  | _ => True

namespace Rehearsal

/-- The rehearsal after a beat. -/
def beat (r : Rehearsal) : Beat → Rehearsal
  | .order o => r.withDirector (r.director.follow o).1
  | .deliver => r.deliverNext.1
  | .edit source => r.modifyStage fun s => s.withSource source
  | .close => r.modifyStage fun s => { s with interpreter := s.interpreter.close }

/-- The rehearsal after some beats. -/
def perform (r : Rehearsal) (bs : List Beat) : Rehearsal :=
  bs.foldl beat r

@[simp] theorem perform_nil (r : Rehearsal) : r.perform [] = r := rfl

@[simp] theorem perform_cons (r : Rehearsal) (b : Beat) (bs : List Beat) :
    r.perform (b :: bs) = (r.beat b).perform bs := rfl

@[simp] theorem perform_append (r : Rehearsal) (bs bs' : List Beat) :
    r.perform (bs ++ bs') = (r.perform bs).perform bs' :=
  List.foldl_append

/-- The replies that wait to be delivered. -/
def waitingReplies (r : Rehearsal) : List Reply :=
  r.inbox ++ r.director.storyteller.output

/-- The events of the current session that wait to be delivered. -/
def waiting (r : Rehearsal) : List Event :=
  eventsFor r.state.session r.waitingReplies

/-- A selection of a choice is accepted. -/
def Accepts (r : Rehearsal) (session : SessionId) (n : Nat) : Prop :=
  (r.director.select session n).2 = .ok ()

theorem accepts_iff {r : Rehearsal} {session : SessionId} {n : Nat} :
    r.Accepts session n ↔ Director.refusal? r.state session n = none := by
  rw [Accepts]
  cases hrefusal : Director.refusal? r.state session n with
  | none => simp [r.director.select_eq hrefusal]
  | some e => simp [r.director.select_of_refused hrefusal]

/-- The storyteller still accepts requests. -/
def IsOpen (r : Rehearsal) : Prop :=
  r.stage.interpreter.closed = false

/-- The storyteller has the session at a decision point where the choice with a number is the one
that was offered: it has the text of every choice with this number that may be selected. -/
def Reaches (r : Rehearsal) (session : SessionId) (n : Nat) : Prop :=
  ∃ index p, r.stage.interpreter.position? session = some index ∧
    r.stage.interpreter.script.passages[index]? = some p ∧
    ∀ c ∈ r.state.selectable, c.number = n → ∃ b, p.branch? n = some b ∧ b.text = c.text

/-- In some beats, no choice is on its way when one is selected. -/
def Patient (r : Rehearsal) (bs : List Beat) : Prop :=
  ∀ earlier session n later, bs = earlier ++ .order (.select session n) :: later →
    (r.perform earlier).Accepts session n → ∀ c, Event.choice c ∉ (r.perform earlier).waiting

/-- In some beats, the request of a session for input is delivered. -/
def InputRequired (r : Rehearsal) (session : SessionId) (bs : List Beat) : Prop :=
  ∃ earlier later, bs = earlier ++ .deliver :: later ∧
    (r.perform earlier).waitingReplies.head? = some ⟨session, .inputRequired⟩

variable {r : Rehearsal} {script : Script}

/-! ### Sessions to come -/

/-- Nothing was heard and nothing waits of a session to come. -/
structure Unheard (r : Rehearsal) : Prop where
  positions : r.director.ComingUnheard
  replies : ∀ x ∈ r.waitingReplies, x.session ≤ r.state.session

theorem beat_deliver_of_nil (h : r.waitingReplies = []) : r.beat .deliver = r.collect := by
  have hinbox : r.collect.inbox = [] := h
  rw [beat, deliverNext]
  dsimp only
  rw [hinbox]

theorem beat_deliver_of_cons {x : Reply} {rest : List Reply} (h : r.waitingReplies = x :: rest) :
    (r.beat .deliver).director = (r.collect.director.receive x).1 ∧
      (r.beat .deliver).inbox = rest := by
  have hinbox : r.collect.inbox = x :: rest := h
  have hbeat : r.beat .deliver = ({ r.collect with inbox := rest }.onReply x).1 := by
    rw [beat, deliverNext]
    dsimp only
    rw [hinbox]
  rw [hbeat]
  exact ⟨rfl, rfl⟩

theorem Unheard.follow (h : r.Unheard) (o : Order) : (r.beat (.order o)).Unheard := by
  refine ⟨Director.comingUnheard_follow h.positions o, fun x hx => ?_⟩
  have hle : r.state.session ≤ (r.beat (.order o)).state.session :=
    r.director.session_le_happen (.order o)
  rcases List.mem_append.mp hx with hx | hx
  · exact Nat.le_trans (h.replies x (List.mem_append_left _ hx)) hle
  · rcases Director.session_le_of_mem_output (h := .order o) (fun P hP h => hP.follow h o) hx
      with hx | hx
    · exact Nat.le_trans (h.replies x (List.mem_append_right _ hx)) hle
    · exact hx

theorem Unheard.deliver (h : r.Unheard) : (r.beat .deliver).Unheard := by
  cases hwaiting : r.waitingReplies with
  | nil =>
    rw [beat_deliver_of_nil hwaiting]
    exact ⟨h.positions, fun x hx => h.replies x (by simpa [waitingReplies] using hx)⟩
  | cons x rest =>
    obtain ⟨hdirector, hinbox⟩ := beat_deliver_of_cons hwaiting
    have hstate : (r.beat .deliver).state = (r.collect.director.receive x).1.state :=
      congrArg Director.state hdirector
    have hle : r.state.session ≤ (r.beat .deliver).state.session := by
      rw [hstate]
      exact r.collect.director.session_le_happen (.reply x)
    have hunheard : r.collect.director.ComingUnheard := h.positions
    refine ⟨hdirector ▸ Director.comingUnheard_receive hunheard x, fun y hy => ?_⟩
    rw [waitingReplies, hinbox, hdirector] at hy
    rcases List.mem_append.mp hy with hy | hy
    · refine Nat.le_trans (h.replies y ?_) hle
      rw [hwaiting]
      exact List.mem_cons_of_mem _ hy
    · rw [hstate]
      exact (Director.session_le_of_mem_output (h := .reply x) (fun P hP h => hP.receive h x)
        hy).resolve_left (by simp)

theorem Unheard.beat (h : r.Unheard) (b : Beat) : (r.beat b).Unheard := by
  cases b with
  | order o => exact h.follow o
  | deliver => exact h.deliver
  | edit source => exact ⟨h.positions, h.replies⟩
  | close => exact ⟨h.positions, h.replies⟩

theorem unheard_perform {timing : Timing} {now : Nat} {stage : Stage} (bs : List Beat) :
    ((opening timing now stage).perform bs).Unheard := by
  induction bs using List.reverseRecOn with
  | nil => exact ⟨fun _ _ => rfl, fun x hx => absurd hx List.not_mem_nil⟩
  | append_singleton bs b ih =>
    rw [perform_append]
    exact ih.beat b

/-! ### One beat -/

/-- The storyteller has a script, and it and the play fit what waits. -/
structure Keeps (r : Rehearsal) (script : Script) (asked : Prop) : Prop where
  script_eq : r.director.storyteller.script = script
  stands : Stands script asked r.state r.director.storyteller r.waiting

/-- When a session is started with an open storyteller, all that waits of it is its first scene, and
the storyteller stands where that leads. -/
theorem Unheard.start (h : r.Unheard) (hopen : r.IsOpen) {o : Order} (ho : o.isStart = true) :
    let scene := (r.director.storyteller.source (o.content r.stage.content)).opening
    ∃ log, (r.beat (.order o)).state = Director.nextSession { r.state with log } ∧
      (r.beat (.order o)).waiting = scene.events ∧
      (r.beat (.order o)).director.storyteller.position? (r.state.session + 1) =
        scene.halt.position? := by
  intro scene
  obtain ⟨log, hfollow⟩ := follow_of_isStart (d := r.director) ho
  let d : Director (Recorder Stage) := r.director.modify fun s => { s with log }
  let content := o.content r.stage.content
  have hfit : Fit d.front.front.source d := ⟨⟨rfl, hopen⟩, h.positions⟩
  have hdirector : (r.beat (.order o)).director = d.compile content := hfollow
  have hstate : (r.beat (.order o)).state = Director.nextSession d.state :=
    (congrArg Director.state hdirector).trans (Director.compile_of_open (d := d) hopen content).1
  obtain ⟨st, acks, hplays, hacks, hack, -⟩ := plays_compile_of_fit hfit content
  refine ⟨log, hstate, ?_, by rw [hdirector]; exact hplays.position⟩
  -- everything else that waits is of the sessions before
  have hpast : eventsFor (r.state.session + 1) (r.inbox ++ d.storyteller.output) = [] :=
    eventsFor_eq_nil fun x hx => Nat.ne_of_lt (Nat.lt_succ_of_le (h.replies x hx))
  have hstopped : eventsFor (r.state.session + 1) acks = [] :=
    eventsFor_eq_nil fun x hx => Nat.ne_of_lt (Nat.lt_succ_of_le (Nat.le_of_eq (hack x hx)))
  have hreplies : (r.beat (.order o)).waitingReplies =
      r.inbox ++ d.storyteller.output ++ acks ++
        scene.events.map (Reply.mk (r.state.session + 1)) := by
    rw [waitingReplies, hdirector, hplays.output, hacks]
    simp only [List.append_assoc]
    rfl
  rw [waiting, hreplies, hstate]
  show eventsFor (r.state.session + 1) _ = _
  rw [eventsFor_append, eventsFor_append, hpast, hstopped, eventsFor_map]
  rfl

/-- A session that is started stands before its first scene. -/
theorem Unheard.keeps_start (h : r.Unheard) {o : Order} (ho : o.isStart = true) :
    (r.beat (.order o)).Keeps r.director.storyteller.script False := by
  obtain ⟨hscript, hclosed⟩ := (Stage.kept_setup _ _).follow (d := r.director) ⟨rfl, rfl⟩ o
  refine ⟨hscript, ?_⟩
  cases hopen : r.director.storyteller.closed with
  | true => exact .finished (.inl (hclosed.trans hopen))
  | false =>
    obtain ⟨log, hstate, hwaiting, hposition⟩ := h.start hopen ho
    rw [hwaiting, hstate]
    exact .scene [] _ rfl (Source.isOf_opening _) hposition (.inl rfl)

theorem Keeps.deliver_heard {asked : Prop} (h : r.Keeps script asked) {x : Reply}
    {rest : List Reply} (hwaiting : r.waitingReplies = x :: rest)
    (hdirector : (r.beat .deliver).director = (r.collect.director.receive x).1)
    (hinbox : (r.beat .deliver).inbox = rest) (hhears : r.collect.director.state.hears x) :
    (r.beat .deliver).Keeps script (asked ∨
        (x :: rest).head? = some ⟨r.state.session, .inputRequired⟩) ∧
      (r.beat .deliver).state.session = r.state.session := by
  obtain ⟨session, e⟩ := x
  obtain ⟨hrunning, hsession⟩ := hhears
  have hsession' : session = r.state.session := hsession
  subst hsession'
  let d := r.collect.director
  have hkept : (r.beat .deliver).state.session = r.state.session := by
    rw [state, show (r.beat .deliver).bench.director = _ from hdirector]
    exact (d.turn_step (.reply _)).session_eq
  rw [d.receive_of_hears ⟨hrunning, rfl⟩] at hdirector
  have hstate : (r.beat .deliver).state = (d.perform e).state := congrArg Director.state hdirector
  have hfirst : r.waiting = e :: eventsFor r.state.session rest := by
    rw [waiting, hwaiting, eventsFor_cons]
  have hd : Stands script asked d.state d.storyteller (e :: eventsFor r.state.session rest) :=
    hfirst ▸ h.stands.congr rfl rfl rfl rfl rfl
  have hafter := Stands.perform (d := d) h.script_eq hrunning rfl hd
  refine ⟨⟨?_, ?_⟩, hkept⟩
  · rw [hdirector]
    exact ((Stage.kept_setup script _).perform (d := d) ⟨h.script_eq, rfl⟩ e).1
  · have hnext : (r.beat .deliver).waiting =
        eventsFor r.state.session rest ++
          eventsFor r.state.session (d.perform e).storyteller.output := by
      rw [waiting, hkept, waitingReplies, hinbox, hdirector, eventsFor_append]
    rw [hnext, hstate, hdirector]
    refine hafter.mono (Or.imp_right fun he => ?_)
    rw [he]
    rfl

/-- The first reply that waits is delivered. -/
theorem Keeps.deliver {asked : Prop} (h : r.Keeps script asked) :
    (r.beat .deliver).Keeps script (asked ∨
        r.waitingReplies.head? = some ⟨r.state.session, .inputRequired⟩) ∧
      (r.beat .deliver).state.session = r.state.session := by
  cases hwaiting : r.waitingReplies with
  | nil =>
    have hsame : (r.beat .deliver).waiting = r.waiting := by
      rw [beat_deliver_of_nil hwaiting]
      simp [waiting, waitingReplies]
    rw [beat_deliver_of_nil hwaiting] at hsame ⊢
    refine ⟨⟨h.script_eq, ?_⟩, rfl⟩
    rw [hsame]
    exact (h.stands.mono .inl).congr rfl rfl rfl rfl rfl
  | cons x rest =>
    obtain ⟨hdirector, hinbox⟩ := beat_deliver_of_cons hwaiting
    by_cases hhears : r.collect.director.state.hears x
    · exact h.deliver_heard hwaiting hdirector hinbox hhears
    · rw [r.collect.director.receive_of_not_hears hhears] at hdirector
      have hstate : (r.beat .deliver).state = r.state :=
        (congrArg Director.state hdirector).trans rfl
      refine ⟨⟨?_, ?_⟩, by rw [hstate]⟩
      · rw [hdirector]
        exact h.script_eq
      by_cases hrunning : r.state.phase = .running
      · have hother : x.session ≠ r.state.session := fun heq => hhears ⟨hrunning, heq⟩
        have hsame : (r.beat .deliver).waiting = r.waiting := by
          rw [waiting, hstate, waitingReplies, hinbox, hdirector, output_collect, List.append_nil,
            waiting, hwaiting, eventsFor_cons_of_ne hother]
        rw [hsame, hstate, hdirector]
        exact (h.stands.mono .inl).congr rfl rfl rfl rfl rfl
      · exact .finished (.inr (by rwa [hstate]))

/-- The rehearsal after an order that changes nothing but the issues, if anything. -/
theorem Keeps.aside {asked : Prop} (h : r.Keeps script asked) {d : Director (Recorder Stage)}
    {issues : IssueList} (hstate : d.state = { r.state with issues })
    (hst : d.storyteller = r.director.storyteller) :
    (r.withDirector d).Keeps script asked := by
  have hwaiting : (r.withDirector d).waiting = r.waiting := by
    show eventsFor d.state.session (r.inbox ++ d.storyteller.output) = _
    rw [hstate, hst]
    rfl
  refine ⟨hst ▸ h.script_eq, ?_⟩
  rw [hwaiting]
  show Stands script asked d.state d.storyteller r.waiting
  rw [hst, hstate]
  exact h.stands.congr rfl rfl rfl rfl rfl

theorem Keeps.nextIssue {asked : Prop} (h : r.Keeps script asked) :
    (r.beat (.order .nextIssue)).Keeps script asked ∧
      (r.beat (.order .nextIssue)).state.session = r.state.session := by
  obtain ⟨hstate, -, hcalls⟩ := r.director.visitNextIssue_eq
  have hst : r.director.visitNextIssue.1.storyteller = r.director.storyteller := by
    rw [Director.storyteller_of_kept hcalls fun P hP h => hP.visitNextIssue h]
    cases r.director.state.issues.selectNext.2 <;> rfl
  exact ⟨h.aside hstate hst, (congrArg PlayState.session hstate).trans rfl⟩

theorem Keeps.centre {asked : Prop} (h : r.Keeps script asked) :
    (r.beat (.order .centre)).Keeps script asked ∧
      (r.beat (.order .centre)).state.session = r.state.session := by
  have hst : r.director.centreList.storyteller = r.director.storyteller := by
    rw [Director.storyteller_of_kept r.director.calls_centreList fun P hP h => hP.centre _ h]
    rcases r.director.centreCalls_cases with hcs | ⟨left, hcs⟩ <;> rw [hcs] <;> rfl
  have hstate : r.director.centreList.state = { r.state with issues := r.state.issues } := rfl
  exact ⟨h.aside hstate hst, rfl⟩

/-- A choice is selected while none is on its way. -/
theorem Keeps.select {asked : Prop} (h : r.Keeps script asked) {session : SessionId} {n : Nat}
    (hoffered : Director.refusal? r.state session n = none)
    (patient : ∀ c, Event.choice c ∉ r.waiting) :
    (r.beat (.order (.select session n))).Keeps script False ∧
      (r.beat (.order (.select session n))).state.session = r.state.session := by
  obtain ⟨rfl, -⟩ := Director.refusal?_eq_none_iff.mp hoffered
  let d := (r.director.select r.state.session n).1
  obtain ⟨events, hout, hstands⟩ := Stands.select h.script_eq h.stands hoffered patient
  have hsession : d.state.session = r.state.session :=
    (r.director.turn_step (.order (.select r.state.session n))).session_eq
  refine ⟨⟨?_, ?_⟩, hsession⟩
  · exact ((Stage.kept_setup script _).select (d := r.director) ⟨h.script_eq, rfl⟩ _ n).1
  · have hwaiting :
        (r.beat (.order (.select r.state.session n))).waiting = r.waiting ++ events := by
      show eventsFor d.state.session (r.inbox ++ d.storyteller.output) = _
      rw [hsession, hout, ← List.append_assoc, eventsFor_append, eventsFor_map]
      rfl
    rw [hwaiting]
    exact hstands

/-- A beat that starts no session. The condition is the one of `Patient` for a single beat. -/
theorem Keeps.beat {asked : Prop} (h : r.Keeps script asked) {b : Beat} (hb : b.Continues script)
    (patient : ∀ session n, b = .order (.select session n) → r.Accepts session n →
      ∀ c, Event.choice c ∉ r.waiting) :
    (r.beat b).Keeps script (asked ∨ r.InputRequired r.state.session [b]) ∧
      (r.beat b).state.session = r.state.session := by
  have hsame {r' : Rehearsal} (hr' : r'.Keeps script asked) :
      r'.Keeps script (asked ∨ r.InputRequired r.state.session [b]) :=
    ⟨hr'.script_eq, hr'.stands.mono .inl⟩
  cases b with
  | order o =>
    cases o with
    | compile content => contradiction
    | startOver => contradiction
    | takeBack => contradiction
    | select session n =>
      cases hrefusal : Director.refusal? r.state session n with
      | none =>
        obtain ⟨hnext, hsession⟩ :=
          h.select hrefusal (patient session n rfl (accepts_iff.mpr hrefusal))
        exact ⟨⟨hnext.script_eq, hnext.stands.mono False.elim⟩, hsession⟩
      | some e =>
        have hrefused : r.beat (.order (.select session n)) = r := by
          rw [Rehearsal.beat, Director.follow, r.director.select_of_refused hrefusal]
          rfl
        rw [hrefused]
        exact ⟨hsame h, rfl⟩
    | nextIssue => exact h.nextIssue.imp_left hsame
    | centre => exact h.centre.imp_left hsame
  | deliver =>
    obtain ⟨hnext, hsession⟩ := h.deliver
    refine ⟨⟨hnext.script_eq, hnext.stands.mono (Or.imp_right fun hfirst => ?_)⟩, hsession⟩
    exact ⟨[], [], rfl, hfirst⟩
  | edit source => exact ⟨⟨hb, (h.stands.mono .inl).congr rfl rfl rfl rfl rfl⟩, rfl⟩
  | close => exact ⟨⟨h.script_eq, .finished (.inl rfl)⟩, rfl⟩

theorem InputRequired.cons {session : SessionId} {b : Beat} {bs : List Beat}
    (h : (r.beat b).InputRequired session bs) : r.InputRequired session (b :: bs) := by
  obtain ⟨earlier, later, rfl, hfirst⟩ := h
  exact ⟨b :: earlier, later, rfl, hfirst⟩

theorem InputRequired.head {session : SessionId} {b : Beat}
    (h : r.InputRequired session [b]) (bs : List Beat) : r.InputRequired session (b :: bs) := by
  obtain ⟨earlier, later, heq, hfirst⟩ := h
  refine ⟨earlier, later ++ bs, ?_, hfirst⟩
  rw [← List.cons_append, ← List.append_assoc, ← heq]
  rfl

theorem Patient.left {bs bs' : List Beat} (h : r.Patient (bs ++ bs')) : r.Patient bs := by
  rintro earlier session n later rfl haccepted
  exact h earlier session n (later ++ bs') (by simp) haccepted

theorem Patient.right {bs bs' : List Beat} (h : r.Patient (bs ++ bs')) :
    (r.perform bs).Patient bs' := by
  rintro earlier session n later rfl haccepted
  rw [← perform_append] at haccepted ⊢
  exact h (bs ++ earlier) session n later (by simp) haccepted

theorem patient_nil : r.Patient [] := by
  rintro earlier session n later heq
  simp at heq

theorem patient_cons {b : Beat} {bs : List Beat} : r.Patient (b :: bs) ↔
    (∀ session n, b = .order (.select session n) → r.Accepts session n →
      ∀ c, Event.choice c ∉ r.waiting) ∧ (r.beat b).Patient bs := by
  constructor
  · intro h
    refine ⟨?_, fun earlier session n later heq haccepted => ?_⟩
    · rintro session n rfl haccepted
      exact h [] session n bs rfl haccepted
    · exact h (b :: earlier) session n later (congrArg (b :: ·) heq) haccepted
  · rintro ⟨hhead, htail⟩ earlier session n later heq haccepted
    cases earlier with
    | nil =>
      obtain ⟨rfl, -⟩ := List.cons.inj heq
      exact hhead session n rfl haccepted
    | cons b' earlier =>
      obtain ⟨rfl, hrest⟩ := List.cons.inj heq
      exact htail earlier session n later hrest haccepted

theorem patient_deliver {bs : List Beat} :
    r.Patient (.deliver :: bs) ↔ (r.beat .deliver).Patient bs := by
  simp [patient_cons]

/-- Beats that start no session, in which no choice is on its way when one is selected. -/
theorem Keeps.perform {asked : Prop} {bs : List Beat} (h : r.Keeps script asked)
    (hbs : ∀ b ∈ bs, b.Continues script) (patient : r.Patient bs) :
    (r.perform bs).Keeps script (asked ∨ r.InputRequired r.state.session bs) ∧
      (r.perform bs).state.session = r.state.session := by
  induction bs generalizing r asked with
  | nil => exact ⟨⟨h.script_eq, h.stands.mono .inl⟩, rfl⟩
  | cons b bs ih =>
    obtain ⟨hhead, htail⟩ := patient_cons.mp patient
    obtain ⟨hnext, hsession⟩ := h.beat (hbs b List.mem_cons_self) hhead
    obtain ⟨hlast, hsession'⟩ :=
      ih hnext (fun b' hb' => hbs b' (List.mem_cons_of_mem _ hb')) htail
    refine ⟨⟨hlast.script_eq, hlast.stands.mono ?_⟩, hsession'.trans hsession⟩
    rintro ((hasked | hfirst) | hlater)
    · exact .inl hasked
    · exact .inr (hfirst.head bs)
    · exact .inr (InputRequired.cons (hsession ▸ hlater))

/-- What is true when a selection is accepted while the storyteller is open. -/
theorem Keeps.accepted {asked : Prop} (h : r.Keeps script asked) {session : SessionId} {n : Nat}
    (haccepted : r.Accepts session n) (hopen : r.IsOpen) :
    session = r.state.session ∧
      (∃ index p, r.stage.interpreter.position? session = some index ∧
        script.passages[index]? = some p ∧ r.state.selectable <+: p.choices) ∧
      (r.waiting = [] → asked) := by
  obtain ⟨rfl, hrunning, p, hpoint, hshown, -⟩ :=
    Director.refusal?_eq_none_iff.mp (accepts_iff.mp haccepted)
  have hselectable : r.state.selectable = p.choices := by
    simp [PlayState.selectable, hpoint, hshown]
  rw [hselectable]
  refine ⟨rfl, ?_⟩
  obtain ⟨index, passage, rest, hposition, hpassage, hchoices, hwaits⟩ :=
    h.stands.at_point hopen hrunning hpoint
  refine ⟨⟨index, passage, hposition, hpassage, rest, hchoices.symm⟩, fun hnone => ?_⟩
  rcases hwaits with hwaits | ⟨-, hasked⟩
  · simp [hnone] at hwaits
  · exact hasked

/-- Between two selections that are accepted, input was required, if nothing waits at the second
one. -/
theorem Keeps.inputRequired {asked : Prop} (h : r.Keeps script asked) {session : SessionId}
    {m n : Nat} {earlier later : List Beat}
    (hbs : ∀ b ∈ earlier ++ .order (.select session m) :: later, b.Continues script)
    (patient : r.Patient (earlier ++ .order (.select session m) :: later))
    (hfirst : (r.perform earlier).Accepts session m)
    (hsecond : (r.perform (earlier ++ .order (.select session m) :: later)).Accepts session n)
    (hopen : (r.perform (earlier ++ .order (.select session m) :: later)).IsOpen)
    (hnone : (r.perform (earlier ++ .order (.select session m) :: later)).waiting = []) :
    (r.perform (earlier ++ [.order (.select session m)])).InputRequired session later := by
  have hoffered := accepts_iff.mp hfirst
  obtain ⟨hearlier, -⟩ :=
    h.perform (fun b hb => hbs b (List.mem_append_left _ hb)) patient.left
  obtain ⟨hselected, hsession⟩ := hearlier.select hoffered (patient earlier _ m later rfl hfirst)
  obtain ⟨hlast, -⟩ := hselected.perform
    (fun b hb => hbs b (List.mem_append_right _ (List.mem_cons_of_mem _ hb)))
    (patient_cons.mp patient.right).2
  have hcurrent : session = (r.perform earlier).state.session :=
    (Director.refusal?_eq_none_iff.mp hoffered).1
  rw [perform_append, perform_cons] at hsecond hopen hnone
  obtain ⟨-, -, hasked⟩ := hlast.accepted hsecond hopen
  rw [perform_append, perform_cons, perform_nil, hcurrent]
  rw [hsession, hcurrent] at hasked
  exact (hasked (hcurrent ▸ hnone)).resolve_left id

end Rehearsal

open Rehearsal in
/-- **A selection reaches its decision point.** Take any rehearsal, and in it a session that is
started by the order `o` behind the beats `before` and neither replaced nor given another script in
the beats `after`. Suppose that in these no choice is on its way when one is selected. If another
selection is accepted then, and the storyteller is open, the selection reaches the decision point at
which it was offered. If moreover nothing of the session waits to be delivered, its request for
input was delivered since the selection before. -/
theorem selection_reaches_point (timing : Timing) (now : Nat) (stage : Stage)
    (before after : List Beat) (o : Order) (hstart : o.isStart = true)
    (hafter : ∀ b ∈ after,
      b.Continues ((opening timing now stage).perform before).stage.interpreter.script)
    (patient : (((opening timing now stage).perform before).beat (.order o)).Patient after) :
    let r₁ := ((opening timing now stage).perform before).beat (.order o)
    let r := r₁.perform after
    ∀ session n, r.Accepts session n → r.IsOpen →
      r.Reaches session n ∧
      (r.waiting = [] → ∀ earlier m later, after = earlier ++ .order (.select session m) :: later →
        (r₁.perform earlier).Accepts session m →
          (r₁.perform (earlier ++ [.order (.select session m)])).InputRequired session later) := by
  intro r₁ r session n haccepted hopen
  let script := ((opening timing now stage).perform before).stage.interpreter.script
  have hbegun : r₁.Keeps script False := (unheard_perform before).keeps_start hstart
  obtain ⟨hkeeps, hsession⟩ := hbegun.perform hafter patient
  have hscript : r.stage.interpreter.script = script := hkeeps.script_eq
  obtain ⟨rfl, ⟨index, p, hposition, hpassage, hleading⟩, -⟩ := hkeeps.accepted haccepted hopen
  refine ⟨⟨index, p, hposition, hscript ▸ hpassage, fun c hc hn => ?_⟩, ?_⟩
  · rw [← hn]
    exact Passage.branch?_of_mem_choices (hleading.subset hc)
  · intro hnone earlier m later hsplit hfirst
    rw [hsplit] at hafter patient
    have hlast : r = r₁.perform (earlier ++ .order (.select r.state.session m) :: later) := by
      rw [← hsplit]
    rw [hlast] at haccepted hopen hnone
    exact hbegun.inputRequired hafter patient hfirst haccepted hopen hnone

open Rehearsal in
/-- At the crossroads the forest path is taken when all has been delivered, and then the second
choice in the forest. -/
theorem selection_reaches_forest :
    let walk : List Beat := [.deliver, .deliver, .deliver, .deliver, .deliver]
    let after : List Beat :=
      [.deliver, .deliver, .deliver, .deliver] ++ .order (.select 1 1) :: walk
    let r₁ := ((opening {} 0 {}).perform []).beat (.order (.compile ""))
    let r := r₁.perform after
    Order.isStart (.compile "") = true ∧ (∀ b ∈ after, b.Continues .crossroads) ∧
      r₁.Patient after ∧ r.Accepts 1 2 ∧ r.IsOpen ∧ r.waiting = [] ∧ r.Reaches 1 2 ∧
      (r₁.perform [.deliver, .deliver, .deliver, .deliver, .order (.select 1 1)]).InputRequired 1
        walk := by
  intro walk after r₁ r
  have hafter : ∀ b ∈ after, b.Continues .crossroads := by
    simp [after, walk, Beat.Continues, Order.isStart]
  have patient : r₁.Patient after := by
    have hnone : (r₁.perform [.deliver, .deliver, .deliver, .deliver]).waiting = [] := by
      decide +kernel
    simp only [after, walk, List.cons_append, List.nil_append, patient_deliver]
    refine patient_cons.mpr ⟨fun session n _ _ c hc => ?_, ?_⟩
    · exact absurd (hnone ▸ hc : Event.choice c ∈ []) List.not_mem_nil
    · simp only [patient_deliver, patient_nil]
  have hfirst : (r₁.perform [.deliver, .deliver, .deliver, .deliver]).Accepts 1 1 := by
    rw [accepts_iff]
    decide +kernel
  have haccepted : r.Accepts 1 2 := by
    rw [accepts_iff]
    decide +kernel
  have hopen : r.IsOpen := by
    unfold Rehearsal.IsOpen
    decide +kernel
  have hnone : r.waiting = [] := by decide +kernel
  obtain ⟨hreaches, hasked⟩ := selection_reaches_point {} 0 {} [] after (.compile "") rfl hafter
    patient 1 2 haccepted hopen
  have hrequired := hasked hnone [.deliver, .deliver, .deliver, .deliver] 1 walk rfl hfirst
  exact ⟨rfl, hafter, patient, haccepted, hopen, hnone, hreaches, hrequired⟩

open Rehearsal in
/-- If the forest path is taken before the river was offered, the river is still offered afterwards,
but who selects it keeps walking through the forest. -/
theorem early_selection_misses_point :
    ¬ ∀ after : List Beat, (∀ b ∈ after, b.Continues .crossroads) →
      let r := ((opening {} 0 {}).beat (.order (.compile ""))).perform after
      ∀ session n, r.Accepts session n → r.IsOpen → r.Reaches session n := by
  intro hclaim
  let after : List Beat := [.deliver, .deliver, .order (.select 1 1), .deliver]
  let r := ((opening {} 0 {}).beat (.order (.compile ""))).perform after
  have haccepted : r.Accepts 1 2 := by
    rw [accepts_iff]
    decide +kernel
  have hopen : r.IsOpen := by
    unfold Rehearsal.IsOpen
    decide +kernel
  obtain ⟨index, p, hposition, hpassage, htexts⟩ := hclaim after
    (by simp [after, Beat.Continues, Order.isStart]) 1 2 haccepted hopen
  have hforest : r.stage.interpreter.position? 1 = some 1 := by decide +kernel
  obtain rfl : 1 = index := Option.some.inj (hforest.symm.trans hposition)
  have hkeep : (r.stage.interpreter.script.passages[1]?.bind (·.branch? 2)).map Branch.text =
      some "Keep walking" := by decide +kernel
  have hriver : (⟨2, "Follow the river"⟩ : Choice) ∈ r.state.selectable := by decide +kernel
  obtain ⟨b, hbranch, htext⟩ := htexts _ hriver rfl
  have hpassage' : r.stage.interpreter.script.passages[1]? = some p := hpassage
  rw [hpassage', Option.bind_some, hbranch, Option.map_some, htext] at hkeep
  simp at hkeep

end Playthrough
