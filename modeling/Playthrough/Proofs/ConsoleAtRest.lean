import Playthrough.Proofs.ConsoleRehearsal
import Playthrough.Proofs.IssueSurfaces

/-!
# A console at rest

Between two occasions a console on a scripted interpreter is at rest: the storyteller has nothing
more to say, and it stands where the play stands. Either no session was started, or the current one
has ended and the storyteller has left it, or the story waits at a decision point and its choices
can be selected. So nobody is ever left with a running story and nothing to choose.

The console is a rehearsal, and a session of a rehearsal has always heard a telling of its source.
Where the telling stands is where the console does. A storyteller that is closed from the beginning
refuses every session, so that none ever runs.

## Main definitions

* `Console.AtRest` — the play and the storyteller stand in the same place.
* `Director.OnlyCurrent` — the storyteller has no session at a decision point but the current one.
* `Rehearsal.Settled`, `Rehearsal.Shut` — what is kept with an open and with a closed storyteller.

## Main results

* `console_at_rest` — a console is at rest after any occasions.
-/

namespace Playthrough

/-- The play at a console stands where the storyteller does, which has nothing more to say. -/
structure Console.AtRest (c : Console) (st : Storyteller) : Prop where
  output : st.output = []
  others : ∀ k, k ≠ c.state.session → st.position? k = none
  stands : match c.state.phase with
    | .idle => c.state.session = 0 ∧ st.runs = 0
    | .running => ∃ index p, st.position? c.state.session = some index ∧
        st.script.passages[index]? = some p ∧ p.branches ≠ [] ∧
        (∃ point, c.state.point = some point ∧ point.replayed = false) ∧
        c.state.selectable = p.choices ∧ c.state.log.cursor = .live
    | .completed => st.position? c.state.session = none
    | .failed => st.position? c.state.session = none

/-- Choices may be selected only at a point that is shown. -/
theorem PlayState.point_of_selectable (s : PlayState) (h : s.selectable ≠ []) :
    ∃ point, s.point = some point ∧ point.replayed = false := by
  unfold selectable at h
  cases hpoint : s.point with
  | none => simp [hpoint] at h
  | some point =>
    refine ⟨point, rfl, ?_⟩
    cases hreplayed : point.replayed with
    | false => rfl
    | true => simp [hpoint, hreplayed] at h

/-! ### No session but the current one -/

/-- To go on with a session that is at no decision point changes nothing. -/
theorem Storyteller.position?_send_continueWith {st : Storyteller} {session : SessionId}
    (h : st.position? session = none) (n : Nat) (other : SessionId) :
    (st.send (.continueWith n session)).1.position? other = st.position? other := by
  unfold send
  split
  · rfl
  · let noted : Storyteller := { st with received := st.received ++ [.continueWith n session] }
    have hnoted : noted.position? session = none := h
    show (noted.takeChoice session n).position? other = st.position? other
    rw [takeChoice, hnoted]
    rfl

namespace Director

/-- The storyteller has no session at a decision point but the current one, and none at all as long
as there was no session. -/
def OnlyCurrent (d : Director (Recorder Stage)) : Prop :=
  ∀ k, k ≠ d.state.session ∨ k = 0 → d.storyteller.position? k = none

variable {d : Director (Recorder Stage)}

/-- When the session before is stopped, none is at a decision point any more. -/
theorem OnlyCurrent.stopped (hd : d.OnlyCurrent) (hopen : d.storyteller.closed = false)
    {k : SessionId} :
    (d.storyteller.sendAll
      (if d.state.session = 0 then [] else [.stop d.state.session])).position? k = none := by
  by_cases hfirst : d.state.session = 0
  · rw [if_pos hfirst, Storyteller.sendAll_nil]
    refine hd k ?_
    rw [hfirst]
    exact (Nat.eq_zero_or_pos k).symm.imp Nat.ne_of_gt id
  · rw [if_neg hfirst, Storyteller.sendAll_cons, Storyteller.sendAll_nil]
    by_cases hcurrent : k = d.state.session
    · rw [hcurrent, Storyteller.send, if_neg (by simp [hopen])]
      simp [Storyteller.answer]
    · rw [(d.storyteller.attends_send (.stop d.state.session)).others k hcurrent]
      exact hd k (.inl hcurrent)

theorem onlyCurrent_happen (hopen : d.storyteller.closed = false) (hd : d.OnlyCurrent)
    {h : Happening Stage}
    (hkept : ∀ P, Frontend.Kept P → P d.front → P (d.happen h).1.front) :
    (d.happen h).1.OnlyCurrent := by
  have hst := storyteller_of_kept (d.calls_happen h) hkept
  intro k hk
  rcases (d.turn_step h).requests_cases with
    ⟨-, hsession, content, hcs⟩ | ⟨-, hsession, -, hcs | ⟨n, -, hcs⟩⟩ <;> rw [hcs] at hst
  -- only the session that is started is attended to
  · have hnew : k ≠ d.state.session + 1 := by
      rcases hk with hk | rfl
      · exact fun heq => hk (heq.trans hsession.symm)
      · exact (Nat.succ_ne_zero _).symm
    let stopped :=
      d.storyteller.sendAll (if d.state.session = 0 then [] else [.stop d.state.session])
    rw [hst, Storyteller.sendAll_append, Storyteller.sendAll_cons, Storyteller.sendAll_nil]
    have hothers := (stopped.attends_send (.run content (d.happen h).1.state.session)).others k
      (hsession ▸ hnew)
    exact hothers.trans (hd.stopped hopen)
  · rw [hst]
    exact hd k (hsession ▸ hk)
  · rw [hst, Storyteller.sendAll_cons, Storyteller.sendAll_nil]
    rw [hsession] at hk
    by_cases hcurrent : k = d.state.session
    · subst hcurrent
      have hnone : d.storyteller.position? d.state.session = none := hd _ hk
      rw [Storyteller.position?_send_continueWith hnone]
      exact hnone
    · rw [(d.storyteller.attends_send (.continueWith n d.state.session)).others k hcurrent]
      exact hd k (.inl hcurrent)

theorem onlyCurrent_follow (hopen : d.storyteller.closed = false) (hd : d.OnlyCurrent)
    (o : Order) : (d.follow o).1.OnlyCurrent :=
  onlyCurrent_happen (h := .order o) hopen hd fun _ hP h => hP.follow h o

theorem onlyCurrent_receive (hopen : d.storyteller.closed = false) (hd : d.OnlyCurrent)
    (r : Reply) : (d.receive r).1.OnlyCurrent :=
  onlyCurrent_happen (h := .reply r) hopen hd fun _ hP h => hP.receive h r

end Director

/-! ### An open storyteller -/

namespace Rehearsal

/-- There has been no session yet. -/
structure Unbegun (r : Rehearsal) : Prop where
  phase : r.state.phase = .idle
  session : r.state.session = 0
  received : r.director.storyteller.received = []

/-- What is kept with an open storyteller: no session has begun, or the current one has heard a
telling from a source with the script. -/
structure Conducted (script : Script) (complaints : List Diagnostic) (r : Rehearsal) : Prop where
  ready : Ready r.stage.source r
  script_eq : r.stage.interpreter.script = script
  complaints_eq : r.stage.interpreter.complaints = complaints
  only : r.director.OnlyCurrent
  told : r.Unbegun ∨ ∃ source base ns, source.script = script ∧
    Tells source base ns (source.telling ns) r

variable {r : Rehearsal} {script : Script} {complaints : List Diagnostic}

/-- What starts no session leaves a rehearsal without one as it is. -/
theorem Unbegun.order (h : r.Unbegun) (hsettled : r.IsSettled) {o : Order}
    (ho : o.isStart = false) : (r.move (.order o)).Unbegun := by
  have step := r.director.turn_step (.order o)
  have hst := Director.storyteller_of_kept (r.director.calls_happen (.order o))
    fun P hP h => hP.follow h o
  rcases step.requests_cases with ⟨hstart, -⟩ | ⟨-, hsession, -, hcs | ⟨n, hrunning, -⟩⟩
  · exact absurd (hstart.symm.trans ho) (by simp)
  · rw [hcs, Storyteller.sendAll_nil] at hst
    let next := r.withDirector (r.director.follow o).1
    have hnext : next.IsSettled := by
      refine ⟨hsettled.1, ?_⟩
      exact (congrArg Storyteller.output hst).trans hsettled.2
    rw [move, hnext.deliverAll_fst]
    refine ⟨?_, ?_, ?_⟩
    · exact (step.phase_eq_idle_iff ho).mpr h.phase
    · exact hsession.trans h.session
    · exact (congrArg Storyteller.received hst).trans h.received
  · exact absurd (h.phase.symm.trans hrunning) (by simp)

/-- Another content leaves what was told as it is. -/
theorem tells_edit {source source' : Source} {base : List Call} {ns : List Nat} {t : Telling}
    (h : Tells source base ns t r) (hscript : source'.script = r.stage.interpreter.script)
    (hcomplaints : source'.complaints = r.stage.interpreter.complaints) :
    Tells source base ns t (r.move (.edit source')) := by
  have hst : (r.move (.edit source')).director.storyteller = r.director.storyteller := by
    show { r.stage.interpreter with script := source'.script, complaints := source'.complaints } =
      r.stage.interpreter
    rw [hscript, hcomplaints]
  exact {
    settled := ⟨h.settled.1, by rw [hst]; exact h.settled.2⟩
    isOpen := by rw [hst, h.isOpen]
    source := by rw [hst, h.source]
    choices := h.choices
    live := h.live
    position := by rw [hst]; exact h.position
    phase := h.phase
    selectable := h.selectable
    arrived := h.arrived
    calls := h.calls }

theorem onlyCurrent_deliverAll (hopen : r.director.storyteller.closed = false)
    (hr : r.director.OnlyCurrent) : r.deliverAll.1.director.OnlyCurrent := by
  refine (director_deliverAll (P := fun d => d.storyteller.closed = false ∧ d.OnlyCurrent)
    (fun d x hd => ⟨?_, Director.onlyCurrent_receive hd.1 hd.2 x⟩) (fun r hr => hr)
    ⟨hopen, hr⟩).2
  exact ((Stage.kept_setup _ false).receive ⟨rfl, hd.1⟩ x).2

theorem Conducted.order (h : r.Conducted script complaints) (o : Order) :
    (r.move (.order o)).Conducted script complaints := by
  have hready := h.ready.order o
  have hsource : (r.move (.order o)).stage.source = r.stage.source := hready.source_eq
  have hopen : r.director.storyteller.closed = false := h.ready.fit.kept.2
  have honly : (r.move (.order o)).director.OnlyCurrent := onlyCurrent_deliverAll
    ((Stage.kept_source _).follow h.ready.fit.kept o).2 (Director.onlyCurrent_follow hopen h.only o)
  refine ⟨hsource ▸ hready, ?_, ?_, honly, ?_⟩
  · exact (congrArg Source.script hsource).trans h.script_eq
  · exact (congrArg Source.complaints hsource).trans h.complaints_eq
  · cases ho : o.isStart with
    | true =>
      obtain ⟨log, hfollow⟩ : ∃ log, (r.director.follow o).1 =
          (r.director.modify fun s => { s with log }).compile (o.content r.stage.content) :=
        follow_of_isStart ho
      have htells := tells_start_with h.ready log (o.content r.stage.content)
      rw [← hfollow] at htells
      exact .inr ⟨_, _, _, h.script_eq, htells⟩
    | false =>
      rcases h.told with hunbegun | ⟨source, base, ns, hscript, htells⟩
      · exact .inl (hunbegun.order h.ready.settled ho)
      · obtain ⟨ns', hnext⟩ := tells_order htells ho
        exact .inr ⟨source, base, ns', hscript, hnext⟩

theorem Conducted.edit (h : r.Conducted script complaints) {source : Source}
    (hscript : source.script = script) (hcomplaints : source.complaints = complaints) :
    (r.move (.edit source)).Conducted script complaints := by
  refine ⟨(h.ready.edit source), hscript, hcomplaints, h.only, ?_⟩
  rcases h.told with hunbegun | ⟨source', base, ns, hscript', htells⟩
  · exact .inl ⟨hunbegun.phase, hunbegun.session, hunbegun.received⟩
  · refine .inr ⟨source', base, ns, hscript', tells_edit htells ?_ ?_⟩
    · exact hscript.trans h.script_eq.symm
    · exact hcomplaints.trans h.complaints_eq.symm

/-! ### A closed storyteller -/

/-- A storyteller that was closed from the beginning. -/
abbrev shutStoryteller (script : Script) (complaints : List Diagnostic) : Storyteller :=
  { script, complaints, closed := true }

/-- A storyteller that was closed from the beginning stays as it is. -/
theorem kept_shut (script : Script) (complaints : List Diagnostic) :
    Frontend.Kept fun c : Recorder Stage =>
      c.front.interpreter = shutStoryteller script complaints where
  cue _ _ h := h
  mark _ _ _ h := h
  send r c h := by
    show (c.front.interpreter.send r).1 = _
    rw [h]
    rfl

/-- What is kept with a storyteller that was closed from the beginning: no session runs. -/
structure Shut (script : Script) (complaints : List Diagnostic) (r : Rehearsal) : Prop where
  inbox : r.inbox = []
  storyteller : r.director.storyteller = shutStoryteller script complaints
  phase : r.state.phase ≠ .running
  session : r.state.phase = .idle → r.state.session = 0

theorem Shut.isSettled (h : r.Shut script complaints) : r.IsSettled :=
  ⟨h.inbox, by rw [h.storyteller]⟩

theorem Shut.order (h : r.Shut script complaints) (o : Order) :
    (r.move (.order o)).Shut script complaints := by
  let next := r.withDirector (r.director.follow o).1
  have hst : next.director.storyteller = shutStoryteller script complaints :=
    (kept_shut script complaints).follow h.storyteller o
  have step := r.director.turn_step (.order o)
  suffices hnext : next.Shut script complaints by
    rw [move, hnext.isSettled.deliverAll_fst]
    exact hnext
  rcases step.requests_cases with ⟨hstart, -⟩ | ⟨hstart, hsession, hphase, -⟩
  · have hfailed : next.state.phase = .failed :=
      (kept_shut script complaints).phase_follow_of_refused h.storyteller
        (fun r c hc => ⟨.closed, by
          show (c.front.interpreter.send r).2 = _
          rw [hc]
          rfl⟩) hstart
    refine ⟨h.inbox, hst, by rw [hfailed]; simp, fun hidle => ?_⟩
    rw [hfailed] at hidle
    contradiction
  · refine ⟨h.inbox, hst, fun hrunning => h.phase (hphase hrunning), fun hidle => ?_⟩
    exact hsession.trans (h.session ((step.phase_eq_idle_iff hstart).mp hidle))

theorem Shut.edit (h : r.Shut script complaints) {source : Source}
    (hscript : source.script = script) (hcomplaints : source.complaints = complaints) :
    (r.move (.edit source)).Shut script complaints := by
  refine ⟨h.inbox, ?_, h.phase, h.session⟩
  show { r.director.storyteller with script := source.script, complaints := source.complaints } = _
  rw [h.storyteller, hscript, hcomplaints]

/-! ### Moves -/

/-- What is kept with either storyteller. -/
def Placed (script : Script) (complaints : List Diagnostic) (r : Rehearsal) : Prop :=
  r.Conducted script complaints ∨ r.Shut script complaints

theorem Placed.move (h : r.Placed script complaints) {m : Move}
    (hm : m.KeepsScript script complaints) : (r.move m).Placed script complaints := by
  cases m with
  | order o => exact h.imp (·.order o) (·.order o)
  | edit source => exact h.imp (·.edit hm.1 hm.2) (·.edit hm.1 hm.2)

theorem Placed.play (h : r.Placed script complaints) {ms : List Move}
    (hms : ∀ m ∈ ms, m.KeepsScript script complaints) : (r.play ms).Placed script complaints := by
  induction ms generalizing r with
  | nil => exact h
  | cons m ms ih =>
    exact ih (h.move (hms m List.mem_cons_self)) fun m' hm' => hms m' (List.mem_cons_of_mem _ hm')

theorem Placed.script_eq (h : r.Placed script complaints) :
    r.stage.interpreter.script = script ∧ r.stage.interpreter.complaints = complaints := by
  rcases h with h | h
  · exact ⟨h.script_eq, h.complaints_eq⟩
  · have hst : r.stage.interpreter = shutStoryteller script complaints := h.storyteller
    rw [hst]
    exact ⟨rfl, rfl⟩

end Rehearsal

namespace Rehearses

variable {c : Console} {r : Rehearsal} {script : Script} {complaints : List Diagnostic}

theorem atRest_of_conducted (h : Rehearses [] [] c r) (hr : r.Conducted script complaints) :
    c.AtRest r.director.storyteller := by
  have hstate : c.state = r.state := h.state_eq
  have hothers (k : SessionId) (hk : k ≠ c.state.session) :
      r.director.storyteller.position? k = none := by
    rw [hstate] at hk
    exact hr.only k (.inl hk)
  refine ⟨h.output, hothers, ?_⟩
  rw [hstate]
  rcases hr.told with hunbegun | ⟨source, base, ns, hscript, htells⟩
  · rw [hunbegun.phase]
    refine ⟨hunbegun.session, ?_⟩
    rw [Storyteller.runs, hunbegun.received]
    rfl
  · have hhalt : (source.telling ns).halt.IsOf source.script := source.isOf_telling ns
    have hphase := htells.phase
    have hposition := htells.position
    have hlive := htells.live
    have hselectable := htells.selectable
    cases hat : (source.telling ns).halt with
    | ended ending =>
      rw [hat] at hphase hposition
      rw [hphase]
      cases ending
      · exact hposition
      · exact hposition
    | point index cs offered =>
      rw [hat] at hphase hposition hlive hselectable hhalt
      obtain ⟨p, hpassage, rfl⟩ := hhalt
      rw [hphase]
      refine ⟨index, p, hposition, ?_, ?_, ?_, hselectable, hlive rfl⟩
      · rw [← hpassage, hscript]
        exact congrArg (·.passages[index]?) hr.script_eq
      · intro hbranches
        exact offered (by simp [Passage.choices, hbranches])
      · exact r.state.point_of_selectable (hselectable.symm ▸ offered)

theorem atRest_of_shut (h : Rehearses [] [] c r) (hr : r.Shut script complaints) :
    c.AtRest r.director.storyteller := by
  have hstate : c.state = r.state := h.state_eq
  have hst := hr.storyteller
  have hnone (k : SessionId) : r.director.storyteller.position? k = none := by
    rw [hst]
    rfl
  refine ⟨h.output, fun k _ => hnone k, ?_⟩
  rw [hstate]
  cases hphase : r.state.phase with
  | idle =>
    refine ⟨hr.session hphase, ?_⟩
    rw [hst]
    rfl
  | running => exact absurd hphase hr.phase
  | completed => exact hnone _
  | failed => exact hnone _

/-- Whatever happens at a console, the rehearsal keeps what it keeps. -/
theorem attend (h : Rehearses [] [] c r) (hr : r.Placed script complaints) (os : List Occasion) :
    ∃ r', Rehearses [] [] (c.attend os) r' ∧ r'.Placed script complaints := by
  induction os generalizing c r with
  | nil => exact ⟨r, h, hr⟩
  | cons o os ih =>
    obtain ⟨ms, hnext, hms⟩ := h.meet o
    obtain ⟨hscript, hcomplaints⟩ := hr.script_eq
    rw [hscript, hcomplaints] at hms
    exact ih hnext (hr.play hms)

end Rehearses

theorem Rehearsal.placed_start (timing : Timing) (now : Nat) (content : String) (script : Script)
    (complaints : List Diagnostic) (closed : Bool) :
    Rehearsal.Placed script complaints
      ⟨.start timing now ⟨Rehearses.stageOf { script, complaints, closed } content, []⟩, [], []⟩ :=
  by
  cases closed with
  | false =>
    refine .inl ⟨?_, rfl, rfl, fun _ _ => rfl, .inl ⟨rfl, rfl, rfl⟩⟩
    exact ready_opening timing now (Rehearses.stageOf { script, complaints } content)
  | true => exact .inr ⟨rfl, rfl, by simp [state, Workbench.start], fun _ => rfl⟩

/-- **A console is at rest.** Take any console on a scripted interpreter, whatever the script and
the complaints of the compiler are, and whether it is closed from the beginning or not. After any
occasions the storyteller has the same script and nothing more to say, and it stands where the play
does. -/
theorem console_at_rest (timing : Timing) (now : Nat) (story : Watcher × String)
    (script : Script) (complaints : List Diagnostic) (closed : Bool) (os : List Occasion) :
    let c := (Console.start timing now (.scripted { script, complaints, closed }) story).attend os
    ∃ st, c.terminal.interpreter = .scripted st ∧ st.script = script ∧ c.AtRest st := by
  intro c
  let st : Storyteller := { script, complaints, closed }
  have hbegun : Rehearses [] [] (.start timing now (.scripted st) story) _ :=
    Rehearses.start timing now rfl story
  obtain ⟨r, hlast, hplaced⟩ :=
    hbegun.attend (Rehearsal.placed_start timing now story.2 script complaints closed) os
  refine ⟨r.director.storyteller, hlast.alike.front.interpreter, hplaced.script_eq.1, ?_⟩
  rcases hplaced with hopen | hshut
  · exact hlast.atRest_of_conducted hopen
  · exact hlast.atRest_of_shut hshut

end Playthrough
