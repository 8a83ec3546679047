import Playthrough.Proofs.Kept
import Playthrough.Proofs.Superseded
import Playthrough.Proofs.Tale
import Playthrough.Rehearsal

/-!
# The storyteller behind a stage

On a stage, the interpreter is a storyteller. A director reaches it only by requests, so the
recorded calls tell what the storyteller has become. As long as it is open, no request is lost.

## Main definitions

* `requests` — the requests sent in some calls.
* `Frontend.Served` — a part of a front end that is served by requests alone.
* `Stage.source` — the source of a session that is compiled from the text of a stage.

## Main results

* `Frontend.Served.part_of_kept`, `Director.storyteller_of_kept` — such a part, and the storyteller
  in particular, has received the requests among the calls.
* `Step.requests_cases` — which requests a step makes.
* `Director.compile_of_open`, `Director.settlePoint_of_open`, `Director.select_of_open` — what sends
  requests, while the storyteller is open.
* `Director.comingUnheard_follow`, `Director.comingUnheard_receive` — the storyteller has not heard
  of any session to come.
-/

namespace Playthrough

/-- The request that a call sends. -/
def Call.request? : Call → Option Request
  | .send r => some r
  | _ => none

/-- The requests sent in some calls. -/
def requests (cs : List Call) : List Request :=
  cs.filterMap Call.request?

@[simp] theorem requests_nil : requests [] = [] := rfl

@[simp] theorem requests_cue (q : Cue) (cs : List Call) : requests (.cue q :: cs) = requests cs :=
  rfl

@[simp] theorem requests_mark (m : Marker) (rows : RowSpan) (style : Style) (cs : List Call) :
    requests (.mark m rows style :: cs) = requests cs := rfl

@[simp] theorem requests_send (r : Request) (cs : List Call) :
    requests (.send r :: cs) = r :: requests cs := rfl

@[simp] theorem requests_append (cs cs' : List Call) :
    requests (cs ++ cs') = requests cs ++ requests cs' :=
  List.filterMap_append

/-- A part of a front end that is served by requests alone. -/
structure Frontend.Served {F B : Type} [Frontend F] (part : F → B) (serve : B → Request → B) :
    Prop where
  cue : ∀ q front, part (Frontend.cue q front) = part front
  mark : ∀ rows style front, part (Frontend.mark rows style front).1 = part front
  send : ∀ r front, part (Frontend.send r front).1 = serve (part front) r

namespace Frontend.Served

variable {F B : Type} [Frontend F] {part : F → B} {serve : B → Request → B}
  (served : Frontend.Served part serve)

include served

/-- The part has received just the requests among the calls. -/
theorem kept (b : B) (base : List Call) :
    Frontend.Kept fun r : Recorder F =>
      ∃ cs, r.calls = base ++ cs ∧ part r.front = (requests cs).foldl serve b where
  cue q r h := by
    obtain ⟨cs, hcalls, hpart⟩ := h
    refine ⟨cs ++ [.cue q], ?_, ?_⟩
    · rw [Recorder.calls_cue, hcalls, List.append_assoc]
    · rw [requests_append, requests_cue, requests_nil, List.append_nil, ← hpart]
      exact served.cue q r.front
  mark rows style r h := by
    obtain ⟨cs, hcalls, hpart⟩ := h
    refine ⟨cs ++ [.mark (Frontend.mark rows style r).2 rows style], ?_, ?_⟩
    · rw [Recorder.calls_mark, hcalls, List.append_assoc]
    · rw [requests_append, requests_mark, requests_nil, List.append_nil, ← hpart]
      exact served.mark rows style r.front
  send q r h := by
    obtain ⟨cs, hcalls, hpart⟩ := h
    refine ⟨cs ++ [.send q], ?_, ?_⟩
    · rw [Recorder.calls_send, hcalls, List.append_assoc]
    · rw [requests_append, List.foldl_append, ← hpart]
      exact served.send q r.front

variable {d d' : Director (Recorder F)}

theorem part_of_kept {cs : List Call} (hcalls : d'.calls = d.calls ++ cs)
    (hkept : ∀ P, Frontend.Kept P → P d.front → P d'.front) :
    part d'.front.front = (requests cs).foldl serve (part d.front.front) := by
  obtain ⟨cs', hcalls', hpart⟩ := hkept _ (served.kept (part d.front.front) d.calls)
    ⟨[], (List.append_nil _).symm, rfl⟩
  rw [List.append_cancel_left (hcalls.symm.trans hcalls')]
  exact hpart

end Frontend.Served

/-- A storyteller after some requests. -/
def Storyteller.sendAll (st : Storyteller) (rs : List Request) : Storyteller :=
  rs.foldl (fun st r => (st.send r).1) st

@[simp] theorem Storyteller.sendAll_nil (st : Storyteller) : st.sendAll [] = st := rfl

@[simp] theorem Storyteller.sendAll_append (st : Storyteller) (rs rs' : List Request) :
    st.sendAll (rs ++ rs') = (st.sendAll rs).sendAll rs' :=
  List.foldl_append

@[simp] theorem Storyteller.sendAll_cons (st : Storyteller) (r : Request) (rs : List Request) :
    st.sendAll (r :: rs) = (st.send r).1.sendAll rs := rfl

namespace Stage

/-- The source of a session that is compiled from the text of the stage. -/
def source (s : Stage) : Source :=
  s.interpreter.source s.content

theorem served_interpreter :
    Frontend.Served Stage.interpreter fun st r => (Storyteller.send st r).1 :=
  ⟨fun _ _ => rfl, fun _ _ _ => rfl, fun _ _ => rfl⟩

/-- The source stays as it is, and the storyteller open. -/
theorem kept_source (source : Source) : Frontend.Kept fun r : Recorder Stage =>
    r.front.source = source ∧ r.front.interpreter.closed = false where
  cue q r h := h
  mark rows style r h := h
  send q r h := by
    have hattends := r.front.interpreter.attends_send q
    refine ⟨?_, hattends.closed.trans h.2⟩
    rw [← h.1]
    show Source.mk (r.front.interpreter.send q).1.script (r.front.interpreter.send q).1.complaints
      r.front.content = r.front.source
    rw [hattends.script, hattends.complaints]
    rfl

/-- The script stays as it is, and the storyteller open or closed. -/
theorem kept_setup (script : Script) (closed : Bool) : Frontend.Kept fun r : Recorder Stage =>
    r.front.interpreter.script = script ∧ r.front.interpreter.closed = closed where
  cue _ _ h := h
  mark _ _ _ h := h
  send q r h :=
    ⟨(r.front.interpreter.attends_send q).script.trans h.1,
      (r.front.interpreter.attends_send q).closed.trans h.2⟩

end Stage

namespace Director

/-- The storyteller of a director on a stage. -/
abbrev storyteller (d : Director (Recorder Stage)) : Storyteller :=
  d.front.front.interpreter

variable {d d' : Director (Recorder Stage)}

/-- What a director has become by calling the front end has sent the requests among its calls. -/
theorem storyteller_of_kept {cs : List Call} (hcalls : d'.calls = d.calls ++ cs)
    (hkept : ∀ P, Frontend.Kept P → P d.front → P d'.front) :
    d'.storyteller = d.storyteller.sendAll (requests cs) :=
  Stage.served_interpreter.part_of_kept hcalls hkept

/-! ### Requests to an open storyteller -/

theorem state_request (hopen : d.storyteller.closed = false) (r : Request) :
    (d.request r).state = d.state := by
  have hsend : Frontend.send r d.front = ((Frontend.send r d.front).1, .ok ()) := by
    refine Prod.ext rfl ?_
    show (d.storyteller.send r).2 = .ok ()
    rw [Storyteller.send, hopen]
    rfl
  rw [request, hsend]

theorem Sequel.eq_nil {s s' : PlayState} {tail : List Call} (h : Sequel s s' tail)
    (hrunning : s'.phase = .running) : tail = [] := by
  cases h with
  | sent => rfl
  | lost e => contradiction

theorem compile_of_open (hopen : d.storyteller.closed = false) (content : String) :
    (d.compile content).state = nextSession d.state ∧
      (d.compile content).calls = d.calls ++
        (openingCalls d.state d.display ++ [.send (.run content (d.state.session + 1))]) := by
  obtain ⟨tail, hsequel, -, hcalls⟩ := d.compile_eq content
  have hstate : (d.compile content).state = nextSession d.state := by
    let opened := (d.stopSession.modify nextSession).cue .turnPage
    have hkept := Stage.kept_source d.front.front.source
    have hstopped := hkept.stopSession (d := d) ⟨rfl, hopen⟩
    have hshown := hkept.showIssues (d := opened) (hkept.cue .turnPage _ hstopped)
    refine (state_request hshown.2 _).trans ?_
    show nextSession d.stopSession.state = nextSession d.state
    rw [state_stopSession]
  rw [hsequel.eq_nil (by rw [hstate]; rfl)] at hcalls
  exact ⟨hstate, hcalls⟩

theorem settlePoint_of_open (hopen : d.storyteller.closed = false)
    (hrunning : d.state.phase = .running) {n : Nat} (h : replayedChoice d.state = some n) :
    d.settlePoint.state = { d.state with log := d.state.log.takeDue.1, point := none } ∧
      d.settlePoint.calls = d.calls ++
        [.cue .scrollDown, .cue .rule, .send (.continueWith n d.state.session)] := by
  obtain ⟨tail, hsequel, -, hcalls⟩ := d.settlePoint_of_some h
  have hstate : d.settlePoint.state =
      { d.state with log := d.state.log.takeDue.1, point := none } := by
    rw [d.settlePoint_eq h]
    refine (state_request ?_ _).trans rfl
    exact hopen
  rw [hsequel.eq_nil (by rw [hstate]; exact hrunning)] at hcalls
  exact ⟨hstate, hcalls⟩

theorem select_of_open (hopen : d.storyteller.closed = false) {session : SessionId} {n : Nat}
    (h : refusal? d.state session n = none) :
    (d.select session n).1.state =
        { d.state with log := (d.state.log.add n).1, point := none } ∧
      (d.select session n).1.calls =
        d.calls ++ [.send (.continueWith n d.state.session)] := by
  obtain ⟨tail, hsequel, -, -, hcalls⟩ := d.select_of_offered h
  have hstate : (d.select session n).1.state =
      { d.state with log := (d.state.log.add n).1, point := none } := by
    rw [d.select_eq h]
    refine (state_request ?_ _).trans rfl
    exact hopen
  have hrunning : d.state.phase = .running := (refusal?_eq_none_iff.mp h).2.1
  rw [hsequel.eq_nil (by rw [hstate]; exact hrunning)] at hcalls
  exact ⟨hstate, hcalls⟩

/-! ### Sessions to come -/

theorem Sequel.requests_eq {s s' : PlayState} {tail : List Call} (h : Sequel s s' tail) :
    requests tail = [] := by
  cases h <;> rfl

theorem requests_failureCalls (x : Diagnostic) : requests (failureCalls x) = [] := by
  rcases failureCalls_cases x with hx | hx <;> rw [hx] <;> rfl

end Director

theorem IssueDisplay.requests_updateCalls (old new : List Marker) (l : IssueList) (left : Float) :
    requests (updateCalls old l new left) = [] := by
  rw [requests, filterMap_updateCalls]
  simp [Call.request?, markCall]

theorem requests_openingCalls (s : PlayState) (v : IssueDisplay) :
    requests (Director.openingCalls s v) = if s.session = 0 then [] else [.stop s.session] := by
  have hclear : requests (IssueDisplay.clearCalls v.markers) = [] := by
    rw [← IssueDisplay.updateCalls_clear v.markers [] {} 0]
    exact IssueDisplay.requests_updateCalls _ _ _ _
  rw [Director.openingCalls, requests_append, requests_cue, hclear, List.append_nil,
    Director.stopCalls]
  split <;> rfl

/-- The requests of a step: those that start the next session, or one choice of the running session,
or none. -/
theorem Step.requests_cases {F : Type} {h : Happening F} {s s' : PlayState}
    {v v' : IssueDisplay} {cs : List Call} (step : Step h s v cs s' v') :
    (h.isStart = true ∧ s'.session = s.session + 1 ∧ ∃ content, requests cs =
        (if s.session = 0 then [] else [.stop s.session]) ++ [.run content s'.session]) ∨
      h.isStart = false ∧ s'.session = s.session ∧ (s'.phase = .running → s.phase = .running) ∧
        (requests cs = [] ∨
          ∃ n, s.phase = .running ∧ requests cs = [.continueWith n s.session]) := by
  cases step with
  | still isStart unheard => exact .inr ⟨isStart, rfl, id, .inl rfl⟩
  | start log content isStart sequel =>
    refine .inl ⟨isStart, sequel.session_eq, content, ?_⟩
    rw [requests_append, requests_send, sequel.requests_eq, requests_openingCalls,
      sequel.session_eq]
    rfl
  | select n p selected running point shown offered sequel =>
    refine .inr ⟨by rw [selected]; rfl, sequel.session_eq, fun _ => running, .inr ⟨n, running, ?_⟩⟩
    rw [requests_send, sequel.requests_eq]
  | visit asked =>
    refine .inr ⟨by rw [asked]; rfl, rfl, id, .inl ?_⟩
    cases s.issues.selectNext.2 <;> rfl
  | centre left asked => exact .inr ⟨by rw [asked]; rfl, rfl, id, .inl rfl⟩
  | say text heard => exact .inr ⟨heard.isStart_eq, rfl, id, .inl rfl⟩
  | repeated x heard known =>
    exact .inr ⟨heard.isStart_eq, rfl, id, .inl (Director.requests_failureCalls x)⟩
  | reported x issues new left heard unknown added length =>
    refine .inr ⟨heard.isStart_eq, rfl, id, .inl ?_⟩
    rw [requests_append, Director.requests_failureCalls, IssueDisplay.requests_updateCalls]
    rfl
  | absorb c heard replayed => exact .inr ⟨heard.isStart_eq, rfl, id, .inl rfl⟩
  | offer c heard shown => exact .inr ⟨heard.isStart_eq, rfl, id, .inl rfl⟩
  | rest heard noneDue => exact .inr ⟨heard.isStart_eq, rfl, id, .inl rfl⟩
  | replay n heard due sequel =>
    refine .inr ⟨heard.isStart_eq, sequel.session_eq, fun _ => heard.2, .inr ⟨n, heard.2, ?_⟩⟩
    rw [requests_cue, requests_cue, requests_send, sequel.requests_eq]
  | conclude phase text termination heard final =>
    have hrunning : s.phase = .running := heard.elim (·.2) (·.2)
    refine .inr ⟨?_, rfl, fun _ => hrunning, .inl rfl⟩
    exact heard.elim (·.isStart_eq) (·.isStart_eq)

/-- No request of a step is for a session to come. -/
theorem Step.session_le_of_mem_requests {F : Type} {h : Happening F} {s s' : PlayState}
    {v v' : IssueDisplay} {cs : List Call} (step : Step h s v cs s' v') :
    ∀ r ∈ requests cs, r.session ≤ s'.session := by
  intro r hr
  rcases step.requests_cases with
    ⟨-, hsession, content, hcs⟩ | ⟨-, hsession, -, hcs | ⟨n, -, hcs⟩⟩ <;> rw [hcs] at hr
  · rcases List.mem_append.mp hr with hr | hr
    · split at hr
      · simp at hr
      · obtain rfl := List.mem_singleton.mp hr
        exact hsession ▸ Nat.le_succ _
    · obtain rfl := List.mem_singleton.mp hr
      exact Nat.le_refl _
  · simp at hr
  · obtain rfl := List.mem_singleton.mp hr
    exact Nat.le_of_eq hsession.symm

theorem Storyteller.position?_sendAll {st : Storyteller} {rs : List Request} {k : SessionId}
    (h : ∀ r ∈ rs, r.session ≠ k) : (st.sendAll rs).position? k = st.position? k := by
  induction rs generalizing st with
  | nil => rfl
  | cons r rs ih =>
    have hrest : ((st.send r).1.sendAll rs).position? k = (st.send r).1.position? k :=
      ih fun q hq => h q (List.mem_cons_of_mem _ hq)
    exact hrest.trans ((st.attends_send r).others k (h r List.mem_cons_self).symm)

theorem Storyteller.mem_output_sendAll {st : Storyteller} {rs : List Request} {x : Reply}
    (h : x ∈ (st.sendAll rs).output) : x ∈ st.output ∨ ∃ r ∈ rs, x.session = r.session := by
  induction rs generalizing st with
  | nil => exact .inl h
  | cons r rs ih =>
    rcases ih h with hx | ⟨q, hq, hx⟩
    · obtain ⟨events, hevents⟩ := st.output_send r
      rw [hevents, List.mem_append] at hx
      refine hx.imp_right fun hx => ⟨r, List.mem_cons_self, ?_⟩
      obtain ⟨e, -, rfl⟩ := List.mem_map.mp hx
      rfl
    · exact .inr ⟨q, List.mem_cons_of_mem _ hq, hx⟩

namespace Director

/-- The storyteller has not heard of any session to come. -/
def ComingUnheard (d : Director (Recorder Stage)) : Prop :=
  ∀ k, d.state.session < k → d.storyteller.position? k = none

theorem comingUnheard_happen {d : Director (Recorder Stage)} {h : Happening Stage}
    (hd : d.ComingUnheard)
    (hkept : ∀ P, Frontend.Kept P → P d.front → P (d.happen h).1.front) :
    (d.happen h).1.ComingUnheard := by
  intro k hk
  have step := d.turn_step h
  have hle : d.state.session ≤ (d.happen h).1.state.session := d.session_le_happen h
  rw [storyteller_of_kept (d.calls_happen h) hkept, Storyteller.position?_sendAll]
  · exact hd k (Nat.lt_of_le_of_lt hle hk)
  · intro r hr
    exact Nat.ne_of_lt (Nat.lt_of_le_of_lt (step.session_le_of_mem_requests r hr) hk)

theorem comingUnheard_follow {d : Director (Recorder Stage)} (hd : d.ComingUnheard) (o : Order) :
    (d.follow o).1.ComingUnheard :=
  comingUnheard_happen (h := .order o) hd fun _ hkept h => hkept.follow h o

theorem comingUnheard_receive {d : Director (Recorder Stage)} (hd : d.ComingUnheard) (r : Reply) :
    (d.receive r).1.ComingUnheard :=
  comingUnheard_happen (h := .reply r) hd fun _ hkept h => hkept.receive h r

/-- The storyteller says nothing of a session to come. -/
theorem session_le_of_mem_output {d : Director (Recorder Stage)} {h : Happening Stage}
    (hkept : ∀ P, Frontend.Kept P → P d.front → P (d.happen h).1.front) {x : Reply}
    (hx : x ∈ (d.happen h).1.storyteller.output) :
    x ∈ d.storyteller.output ∨ x.session ≤ (d.happen h).1.state.session := by
  rw [storyteller_of_kept (d.calls_happen h) hkept] at hx
  refine (Storyteller.mem_output_sendAll hx).imp_right fun ⟨q, hq, hsession⟩ => ?_
  rw [hsession]
  exact (d.turn_step h).session_le_of_mem_requests q hq

end Director

end Playthrough
