import Playthrough.Proofs.SceneDelivery

/-!
# Starting again retells the story

A rehearsal goes on in *moves*: the director follows an order and everything is delivered, or the
source is edited. As long as the source of a session is not edited, the session has always heard the
telling along the choices of its log. A session that is started from the same source with the same
log hears the same telling, so it stands where the other one stood. In particular, taking back the
last choice leads to where the story stood before it was selected.

## Main definitions

* `Move`, `Rehearsal.move`, `Rehearsal.play` — moves, and a rehearsal after some of them.
* `Rehearsal.Ready` — what every rehearsal keeps between two moves.
* `Rehearsal.SamePath` — two sessions went the same path.

## Main results

* `Rehearsal.tells_start` — a session that is started hears the telling along the log.
* `Rehearsal.tells_play` — as long as its source is not edited, that is what a session has heard.
* `restart_retells_path` — starting again reproduces the path, and taking back undoes a selection.
-/

namespace Playthrough

/-! ### Moves -/

/-- The stage with another text, script and complaints. -/
def Stage.withSource (s : Stage) (source : Source) : Stage :=
  { s with
    interpreter := { s.interpreter with script := source.script, complaints := source.complaints }
    content := source.content }

/-- What is done in a rehearsal. -/
inductive Move where
  | order (o : Order)
  | edit (source : Source)

/-- Whether a session and its source are left as they are. -/
def Move.Continues (source : Source) : Move → Prop
  | .order o => o.isStart = false
  | .edit source' => source' = source

/-- The content that an order compiles, given the text of the story. -/
def Order.content (text : String) : Order → String
  | .compile content => content
  | _ => text

namespace Rehearsal

/-- A rehearsal that has not begun, on a stage with a fresh storyteller. -/
def opening (timing : Timing) (now : Nat) (stage : Stage) : Rehearsal where
  bench := .start timing now ⟨{ stage with interpreter := fresh }, []⟩
where
  fresh : Storyteller :=
    { script := stage.interpreter.script, complaints := stage.interpreter.complaints }

/-- The rehearsal with another director. -/
def withDirector (r : Rehearsal) (d : Director (Recorder Stage)) : Rehearsal :=
  { r with bench := r.bench.modify fun _ => d }

/-- The rehearsal after a move. After an order, everything is delivered. -/
def move (r : Rehearsal) : Move → Rehearsal
  | .order o => (r.withDirector (r.director.follow o).1).deliverAll.1
  | .edit source => r.modifyStage fun s => s.withSource source

/-- The rehearsal after some moves. -/
def play (r : Rehearsal) (ms : List Move) : Rehearsal :=
  ms.foldl move r

@[simp] theorem play_append (r : Rehearsal) (ms ms' : List Move) :
    r.play (ms ++ ms') = (r.play ms).play ms' :=
  List.foldl_append

@[simp] theorem play_cons (r : Rehearsal) (m : Move) (ms : List Move) :
    r.play (m :: ms) = (r.move m).play ms := rfl

/-! ### Between two moves -/

/-- A director whose stage has a source, and an open storyteller that has not heard of any session
to come. -/
structure Fit (source : Source) (d : Director (Recorder Stage)) : Prop where
  kept : d.front.front.source = source ∧ d.storyteller.closed = false
  unheard : d.ComingUnheard

theorem Fit.follow {source : Source} {d : Director (Recorder Stage)} (h : Fit source d)
    (o : Order) : Fit source (d.follow o).1 :=
  ⟨(Stage.kept_source source).follow h.kept o, Director.comingUnheard_follow h.unheard o⟩

theorem Fit.receive {source : Source} {d : Director (Recorder Stage)} (h : Fit source d)
    (r : Reply) : Fit source (d.receive r).1 :=
  ⟨(Stage.kept_source source).receive h.kept r, Director.comingUnheard_receive h.unheard r⟩

variable {source : Source} {r : Rehearsal}

theorem Fit.collect (h : Fit source r.director) : Fit source r.collect.director :=
  ⟨h.kept, h.unheard⟩

/-- What every rehearsal keeps between two moves. -/
structure Ready (source : Source) (r : Rehearsal) : Prop where
  settled : r.IsSettled
  fit : Fit source r.director

theorem Fit.ready_deliverAll (h : Fit source r.director) : Ready source r.deliverAll.1 :=
  ⟨r.isSettled_deliverAll,
    director_deliverAll (fun _ x h => Fit.receive h x) (fun _ h => Fit.collect h) h⟩

theorem ready_opening (timing : Timing) (now : Nat) (stage : Stage) :
    Ready stage.source (opening timing now stage) :=
  ⟨⟨rfl, rfl⟩, ⟨rfl, rfl⟩, fun _ _ => rfl⟩

theorem Ready.order (h : Ready source r) (o : Order) : Ready source (r.move (.order o)) :=
  Fit.ready_deliverAll (h.fit.follow o)

theorem Ready.edit (h : Ready source r) (source' : Source) :
    Ready source' (r.move (.edit source')) :=
  ⟨h.settled, ⟨rfl, h.fit.kept.2⟩, h.fit.unheard⟩

theorem Ready.source_eq (h : Ready source r) : r.stage.source = source :=
  h.fit.kept.1

theorem ready_play (timing : Timing) (now : Nat) (stage : Stage) (ms : List Move) :
    Ready ((opening timing now stage).play ms).stage.source
      ((opening timing now stage).play ms) := by
  suffices h : ∃ source, Ready source ((opening timing now stage).play ms) by
    obtain ⟨source, hready⟩ := h
    rw [hready.source_eq]
    exact hready
  induction ms using List.reverseRecOn with
  | nil => exact ⟨_, ready_opening timing now stage⟩
  | append_singleton ms m ih =>
    obtain ⟨source, hready⟩ := ih
    rw [play_append]
    cases m with
    | order o => exact ⟨_, hready.order o⟩
    | edit source' => exact ⟨_, hready.edit source'⟩

/-! ### A session is started -/

theorem advance_of_not_hears {x : Reply} {rest : List Reply}
    (hout : r.director.storyteller.output = []) (hinbox : r.inbox = x :: rest)
    (h : ¬ r.state.hears x) : r.advance = { r with inbox := rest } := by
  have hcollect : r.collect = r := collect_of_output_eq_nil hout
  have hreceive : (r.director.receive x).1 = r.director := r.director.receive_of_not_hears h
  have hnext : ({ r with inbox := rest }.onReply x).1 = { r with inbox := rest } := by
    show Rehearsal.mk { r.bench with director := (r.director.receive x).1 } rest r.held = _
    rw [hreceive]
  rw [advance_of_cons (by rw [hcollect, hinbox]), hcollect, hnext]
  exact collect_of_output_eq_nil hout

/-- Replies that do not reach the story are passed over. -/
theorem iterate_advance_of_not_hears {xs rest : List Reply}
    (hout : r.director.storyteller.output = []) (hinbox : r.inbox = xs ++ rest)
    (h : ∀ x ∈ xs, ¬ r.state.hears x) :
    advance^[xs.length] r = { r with inbox := rest } := by
  induction xs generalizing r with
  | nil =>
    have hrest : r.inbox = rest := hinbox
    rw [← hrest]
    rfl
  | cons x xs ih =>
    rw [List.length_cons, Function.iterate_succ_apply,
      advance_of_not_hears hout hinbox (h x List.mem_cons_self)]
    exact ih (r := { r with inbox := xs ++ rest }) hout rfl fun y hy =>
      h y (List.mem_cons_of_mem _ hy)

/-- Before a session is started, the storyteller stops the one before. It says so, and knows nothing
of the new session yet. -/
theorem stop_of_unheard {d : Director (Recorder Stage)} (h : Fit source d) :
    ∃ st acks, d.storyteller.sendAll
        (if d.state.session = 0 then [] else [.stop d.state.session]) = st ∧
      st.output = d.storyteller.output ++ acks ∧ (∀ x ∈ acks, x.session = d.state.session) ∧
      (∀ content, st.source content = d.storyteller.source content) ∧
      st.closed = false ∧ st.position? (d.state.session + 1) = none := by
  have hunheard := h.unheard (d.state.session + 1) (Nat.lt_succ_self _)
  split
  · exact ⟨_, [], rfl, (List.append_nil _).symm, by simp, fun _ => rfl, h.kept.2, hunheard⟩
  · have hattends := d.storyteller.attends_send (.stop d.state.session)
    refine ⟨_, [⟨d.state.session, .stopAcknowledged⟩], rfl, ?_, by simp, hattends.source_eq,
      hattends.closed.trans h.kept.2, ?_⟩
    · rw [Storyteller.sendAll_cons, Storyteller.sendAll_nil, Storyteller.send,
        if_neg (by simp [h.kept.2])]
      rfl
    · exact (hattends.others _ (Nat.succ_ne_self _)).trans hunheard

/-- When a session is started, the storyteller plays its first scene, behind what it says of the
session before. -/
theorem plays_compile_of_fit {d : Director (Recorder Stage)} (hd : Fit source d)
    (content : String) :
    ∃ st acks, Storyteller.Plays (d.state.session + 1) (d.storyteller.source content).opening st
        (d.compile content).storyteller ∧
      st.output = d.storyteller.output ++ acks ∧ (∀ x ∈ acks, x.session = d.state.session) ∧
      (∀ content, st.source content = d.storyteller.source content) ∧ st.closed = false := by
  obtain ⟨-, hcalls⟩ := Director.compile_of_open hd.kept.2 content
  obtain ⟨st, acks, hst, hacks, hack, hsource, hopen, hposition⟩ := stop_of_unheard hd
  have hplays := st.plays_send_run (d.state.session + 1) hopen content hposition
  have hcompiled : (d.compile content).storyteller =
      (st.send (.run content (d.state.session + 1))).1 := by
    rw [Director.storyteller_of_kept hcalls fun P hP h => hP.compile h content, requests_append,
      requests_openingCalls, Storyteller.sendAll_append, hst]
    rfl
  rw [hsource, ← hcompiled] at hplays
  exact ⟨st, acks, hplays, hacks, hack, hsource, hopen⟩

/-- When a session was started, its first scene waits to be delivered. -/
theorem awaits_compile {d : Director (Recorder Stage)} (hd : Fit source d)
    (hout : d.storyteller.output = []) (content : String) (hinbox : r.inbox = []) :
    ∃ st count, Awaits (d.storyteller.source content) (d.storyteller.source content).opening d.calls
      st (d.state.session + 1) d.state.log.rewound [] []
      (advance^[count] (r.withDirector (d.compile content)).collect) := by
  let session := d.state.session + 1
  let started := (r.withDirector (d.compile content)).collect
  let events := (d.storyteller.source content).opening.events.map (Reply.mk session)
  obtain ⟨hstate, hcalls⟩ := Director.compile_of_open hd.kept.2 content
  obtain ⟨st, acks, hplays, hacks, hack, hsource, hopen⟩ := plays_compile_of_fit hd content
  have hstarted : started.inbox = acks ++ events := by
    show r.inbox ++ (d.compile content).storyteller.output = acks ++ events
    rw [hinbox, hplays.output, hacks, hout, List.nil_append, List.nil_append]
  -- what the storyteller says of the session before is not heard any more
  have hbegun : advance^[acks.length] started = { started with inbox := events } := by
    refine iterate_advance_of_not_hears rfl hstarted fun x hx hears => ?_
    have hsession : started.state.session = session := congrArg PlayState.session hstate
    have heq : d.state.session = session := (hack x hx).symm.trans (hears.2.trans hsession)
    exact absurd heq (Nat.ne_of_lt (Nat.lt_succ_self _))
  have hlater : ({ started with inbox := events } : Rehearsal).state =
      Director.nextSession d.state := hstate
  refine ⟨{ (d.compile content).storyteller with output := [] }, acks.length, ?_⟩
  rw [hbegun]
  refine Midway.awaits ⟨?_, rfl, ?_, ?_, ?_, ?_, ?_, _, hcalls, ?_, ?_⟩ hplays hopen
    (hsource content) rfl
  · rfl
  · rw [hlater]
    rfl
  · rw [hlater]
    rfl
  · rw [hlater]
    rfl
  · rw [hlater]
    rfl
  · rw [hlater]
    rfl
  · rw [texts_append, texts_openingCalls]
    rfl
  · rw [submissions_append, submissions_eq_nil fun c => Director.isQuiet_of_mem_openingCalls]
    rfl

/-- A session that is started hears the telling along the log. -/
theorem tells_start {d : Director (Recorder Stage)} (hd : Fit source d)
    (hout : d.storyteller.output = []) (content : String) (hinbox : r.inbox = []) :
    Tells (d.storyteller.source content) d.calls d.state.log.choices
      ((d.storyteller.source content).telling d.state.log.choices)
      (r.withDirector (d.compile content)).deliverAll.1 := by
  obtain ⟨st, count, hawaits⟩ := awaits_compile hd hout content hinbox
  obtain ⟨count', htells⟩ :=
    hawaits.play (ChoiceLog.tracks_rewound _) (ChoiceLog.remaining_rewound _)
  rw [← Function.iterate_add_apply] at htells
  rw [deliverAll_eq htells.settled rfl]
  exact htells

/-! ### A session goes on -/

variable {source' : Source} {base : List Call} {ns : List Nat}

/-- When a choice was selected, the scene behind it waits to be delivered. -/
theorem awaits_select (h : Tells source base ns (source.telling ns) r) {session : SessionId}
    {n index : Nat} {cs : List Choice} {offered : cs ≠ []}
    (hhalt : (source.telling ns).halt = .point index cs offered)
    (hoffered : Director.refusal? r.state session n = none) :
    ∃ st, Awaits source (source.script.sceneAfter index n) base st r.state.session
      (r.state.log.add n).1 (source.telling ns).remarks ((source.telling ns).choices ++ [n])
      (r.withDirector (r.director.select session n).1).collect := by
  obtain ⟨rfl, hrunning, -⟩ := Director.refusal?_eq_none_iff.mp hoffered
  have hposition : r.director.storyteller.position? r.state.session = some index := by
    rw [h.position, hhalt]
    rfl
  obtain ⟨hstate, hcalls⟩ := Director.select_of_open h.isOpen hoffered
  have hplays := r.director.storyteller.plays_send_continueWith r.state.session h.isOpen hposition n
  have hscript : r.director.storyteller.script = source.script := congrArg Source.script h.source
  rw [hscript] at hplays
  let selected := (r.withDirector (r.director.select r.state.session n).1).collect
  have hselected : (r.director.select r.state.session n).1.storyteller =
      (r.director.storyteller.send (.continueWith n r.state.session)).1 :=
    Director.storyteller_of_kept hcalls fun P hP h => hP.select h _ n
  have hlater : selected.state =
      { r.state with log := (r.state.log.add n).1, point := none } := hstate
  obtain ⟨cs₀, hbase, htexts, hsent⟩ := h.calls
  let made : List Call := [.send (.continueWith n r.state.session)]
  refine ⟨_, Midway.awaits ⟨?_, rfl, ?_, ?_, ?_, ?_, ?_, cs₀ ++ made, ?_, ?_, ?_⟩ hplays h.isOpen
    h.source ?_⟩
  · exact congrArg (fun st : Storyteller => { st with output := [] }) hselected
  · rw [hlater]
  · rw [hlater]
    exact hrunning
  · rw [hlater]
  · rw [hlater]
  · rw [hlater]
    exact h.arrived
  · rw [← List.append_assoc, ← hbase]
    exact hcalls
  · rw [texts_append, htexts]
    exact List.append_nil _
  · rw [submissions_append, hsent]
    rfl
  · show r.inbox ++ (r.director.select r.state.session n).1.storyteller.output = _
    rw [hselected, hplays.output, h.settled.1, h.settled.2, List.nil_append, List.nil_append]

/-- When a choice is selected, one more choice is told. -/
theorem tells_select (h : Tells source base ns (source.telling ns) r) {session : SessionId}
    {n : Nat} (hoffered : Director.refusal? r.state session n = none) :
    Tells source base (ns ++ [n]) (source.telling (ns ++ [n]))
      (r.withDirector (r.director.select session n).1).deliverAll.1 := by
  have hrunning : (source.telling ns).halt.phase = .running :=
    h.phase.symm.trans (Director.refusal?_eq_none_iff.mp hoffered).2.1
  have hlive : r.state.log.cursor = .live := h.live hrunning
  obtain ⟨index, cs, offered, hhalt⟩ : ∃ index cs offered,
      (source.telling ns).halt = .point index cs offered := by
    cases hhalt : (source.telling ns).halt with
    | point index cs offered => exact ⟨index, cs, offered, rfl⟩
    | ended ending =>
      rw [hhalt] at hrunning
      cases ending <;> contradiction
  have htold : (source.telling ns).choices = ns := Script.choices_goOn hhalt
  have hlog : (r.state.log.add n).1 = { r.state.log with choices := ns ++ [n] } := by
    rw [ChoiceLog.add_of_live hlive, h.choices]
  have hlive' : (r.state.log.add n).1.cursor = .live := by
    rw [hlog]
    exact hlive
  have htracks : (r.state.log.add n).1.Tracks ((source.telling ns).choices ++ [n]) := by
    rw [htold]
    refine (ChoiceLog.tracks_of_live hlive').mpr ?_
    rw [hlog]
  obtain ⟨st, hawaits⟩ := awaits_select h hhalt hoffered
  obtain ⟨count, htells⟩ := hawaits.play htracks (ChoiceLog.remaining_of_live hlive')
  rw [deliverAll_eq htells.settled rfl, Source.telling_append hhalt]
  simpa [hlog, htold] using htells

/-- What touches neither the story nor the log leaves the telling as it is. -/
theorem tells_aside {t : Telling} {d : Director (Recorder Stage)} {issues : IssueList}
    {cs : List Call} (h : Tells source base ns t r) (hstate : d.state = { r.state with issues })
    (harrived : issues.arrived = r.state.issues.arrived) (hcalls : d.calls = r.calls ++ cs)
    (hst : d.storyteller = r.director.storyteller) (htexts : texts cs = [])
    (hsubmissions : submissions cs = []) :
    Tells source base ns t (r.withDirector d).deliverAll.1 := by
  have hsettled : (r.withDirector d).IsSettled := by
    refine ⟨h.settled.1, ?_⟩
    show d.storyteller.output = []
    rw [hst, h.settled.2]
  have hnext : (r.withDirector d).state = { r.state with issues } := hstate
  have hst' : (r.withDirector d).director.storyteller = r.director.storyteller := hst
  obtain ⟨cs₀, hbase, htexts₀, hsent⟩ := h.calls
  rw [hsettled.deliverAll_fst]
  exact {
    settled := hsettled
    isOpen := by rw [hst', h.isOpen]
    source := by rw [hst', h.source]
    choices := by rw [hnext, ← h.choices]
    live := fun hrunning => by rw [hnext]; exact h.live hrunning
    position := by rw [hst', hnext, ← h.position]
    phase := by rw [hnext, ← h.phase]
    selectable := by rw [hnext, ← h.selectable]; rfl
    arrived := by rw [hnext, harrived, h.arrived]
    calls := ⟨cs₀ ++ cs, by rw [← List.append_assoc, ← hbase]; exact hcalls,
      by rw [texts_append, htexts₀, htexts, List.append_nil],
      by rw [submissions_append, hsent, hsubmissions, List.append_nil]⟩ }

/-- An order that starts no session tells one more choice or leaves the telling as it is. -/
theorem tells_order (h : Tells source base ns (source.telling ns) r) {o : Order}
    (ho : o.isStart = false) :
    ∃ ns', Tells source base ns' (source.telling ns') (r.move (.order o)) := by
  cases o with
  | compile content => contradiction
  | startOver => contradiction
  | takeBack => contradiction
  | select session n =>
    cases hrefusal : Director.refusal? r.state session n with
    | none => exact ⟨ns ++ [n], tells_select h hrefusal⟩
    | some e =>
      have hsame : (r.director.follow (.select session n)).1 = r.director := by
        rw [Director.follow, r.director.select_of_refused hrefusal]
      refine ⟨ns, ?_⟩
      rw [move, hsame]
      exact h.settled.deliverAll_fst.symm ▸ h
  | nextIssue =>
    obtain ⟨hstate, -, hcalls⟩ := r.director.visitNextIssue_eq
    have hst := Director.storyteller_of_kept hcalls fun P hP h => hP.visitNextIssue h
    refine ⟨ns, tells_aside h hstate r.state.issues.arrived_selectNext hcalls ?_ ?_ ?_⟩
    · refine hst.trans ?_
      cases r.director.state.issues.selectNext.2 <;> rfl
    · cases r.director.state.issues.selectNext.2 <;> rfl
    · cases r.director.state.issues.selectNext.2 <;> rfl
  | centre =>
    have hcalls := r.director.calls_centreList
    have hst := Director.storyteller_of_kept hcalls fun P hP h => hP.centre _ h
    have haside := r.director.centreCalls_cases
    refine ⟨ns, tells_aside h rfl rfl hcalls ?_ ?_ ?_⟩
    · refine hst.trans ?_
      rcases haside with hcs | ⟨left, hcs⟩ <;> rw [hcs] <;> rfl
    · rcases haside with hcs | ⟨left, hcs⟩ <;> rw [hcs] <;> rfl
    · rcases haside with hcs | ⟨left, hcs⟩ <;> rw [hcs] <;> rfl

/-- As long as its source is not edited, a session has heard the telling along its log. -/
theorem tells_play (hready : Ready source' r) (h : Tells source base ns (source.telling ns) r)
    {ms : List Move} (hms : ∀ m ∈ ms, m.Continues source') :
    Ready source' (r.play ms) ∧
      ∃ ns', Tells source base ns' (source.telling ns') (r.play ms) := by
  induction ms generalizing r ns with
  | nil => exact ⟨hready, ns, h⟩
  | cons m ms ih =>
    have hm := hms m List.mem_cons_self
    rw [play_cons]
    cases m with
    | order o =>
      obtain ⟨ns', hnext⟩ := tells_order h hm
      exact ih (hready.order o) hnext fun m hmem => hms m (List.mem_cons_of_mem _ hmem)
    | edit edited =>
      have hsame : r.move (.edit edited) = r := by
        obtain rfl : edited = r.stage.source := hm.trans hready.source_eq.symm
        rfl
      rw [hsame]
      exact ih hready h fun m hmem => hms m (List.mem_cons_of_mem _ hmem)

/-! ### Two sessions -/

/-- Two sessions, which began behind the calls `base` and `base'`, went the same path: they stand in
the same place with the same log and issues, and the same texts were shown and the same choices
submitted in them. -/
structure SamePath (base base' : List Call) (r r' : Rehearsal) : Prop where
  phase : r'.state.phase = r.state.phase
  selectable : r'.state.selectable = r.state.selectable
  position : r'.stage.interpreter.position? r'.state.session =
    r.stage.interpreter.position? r.state.session
  choices : r'.state.log.choices = r.state.log.choices
  issues : r'.state.issues.arrived = r.state.issues.arrived
  texts : texts (r'.calls.drop base'.length) = texts (r.calls.drop base.length)
  submissions : submissions (r'.calls.drop base'.length) = submissions (r.calls.drop base.length)

/-- Sessions that have heard the same telling went the same path. -/
theorem samePath_of_tells {base' : List Call} {r' : Rehearsal} {t : Telling}
    (h : Tells source base ns t r) (h' : Tells source base' ns t r') :
    SamePath base base' r r' := by
  obtain ⟨cs, hcalls, htexts, hsent⟩ := h.calls
  obtain ⟨cs', hcalls', htexts', hsent'⟩ := h'.calls
  have hdrop : r.calls.drop base.length = cs := by rw [hcalls, List.drop_left]
  have hdrop' : r'.calls.drop base'.length = cs' := by rw [hcalls', List.drop_left]
  exact {
    phase := h'.phase.trans h.phase.symm
    selectable := h'.selectable.trans h.selectable.symm
    position := h'.position.trans h.position.symm
    choices := h'.choices.trans h.choices.symm
    issues := h'.arrived.trans h.arrived.symm
    texts := by rw [hdrop, hdrop', htexts, htexts']
    submissions := by rw [hdrop, hdrop', hsent, hsent'] }

/-- An order that starts a session does so with some log. -/
theorem follow_of_isStart {d : Director (Recorder Stage)} {o : Order} (h : o.isStart = true) :
    ∃ log, (d.follow o).1 =
      (d.modify fun s => { s with log }).compile (o.content d.front.front.content) := by
  cases o with
  | compile content => exact ⟨d.state.log, rfl⟩
  | startOver => exact ⟨d.state.log.clear, rfl⟩
  | takeBack => exact ⟨d.state.log.dropLast.1, rfl⟩
  | select session n => contradiction
  | nextIssue => contradiction
  | centre => contradiction

/-- A session that is started with the log `log` hears the telling along it, whatever the session
before has heard. -/
theorem tells_start_with (hready : Ready source' r) (log : ChoiceLog) (content : String) :
    Tells (r.director.storyteller.source content) r.calls log.choices
      ((r.director.storyteller.source content).telling log.choices)
      (r.withDirector
        ((r.director.modify fun s => { s with log }).compile content)).deliverAll.1 := by
  let d : Director (Recorder Stage) := r.director.modify fun s => { s with log }
  have hd : Fit source' d := ⟨hready.fit.kept, hready.fit.unheard⟩
  exact tells_start hd hready.settled.2 content hready.settled.1

/-- A session that is started behind another one of the same source hears a telling from it. -/
theorem tells_again {t : Telling} (hready : Ready source' r) (h : Tells source base ns t r)
    (log : ChoiceLog) :
    Tells source r.calls log.choices (source.telling log.choices)
      (r.withDirector
        ((r.director.modify fun s => { s with log }).compile source.content)).deliverAll.1 := by
  have hagain := tells_start_with hready log source.content
  rw [h.source] at hagain
  exact hagain

/-- When the last choice is taken back, the session that is started hears the telling without it. -/
theorem tells_takeBack {t : Telling} {n : Nat} (hready : Ready source' r)
    (h : Tells source base (ns ++ [n]) t r) (hcontent : r.stage.content = source.content) :
    Tells source r.calls ns (source.telling ns) (r.move (.order .takeBack)) := by
  have hdropped : r.state.log.dropLast.1.choices = ns := by
    show r.state.log.choices.dropLast = ns
    rw [h.choices, List.dropLast_concat]
  have hagain := tells_again hready h r.state.log.dropLast.1
  rw [hdropped, ← hcontent] at hagain
  exact hagain

end Rehearsal

open Rehearsal in
/-- **Starting again retells the story.** Take any rehearsal, and in it a session that is started by
the order `o` behind the moves `before` and whose source is not edited in the moves `after`. If it
is started again from the same content, the new session goes the same path. If a choice is selected
instead, and the story still has that content, taking the choice back leads to a session that goes
the path of the one before the selection. -/
theorem restart_retells_path (timing : Timing) (now : Nat) (stage : Stage)
    (before after : List Move) (o : Order) (hstart : o.isStart = true)
    (hafter : ∀ m ∈ after, m.Continues ((opening timing now stage).play before).stage.source) :
    let r₀ := (opening timing now stage).play before
    let r := r₀.play (.order o :: after)
    let content := o.content r₀.stage.content
    SamePath r₀.calls r.calls r (r.move (.order (.compile content))) ∧
      ∀ session n, (r.director.select session n).2 = .ok () → r.stage.content = content →
        let selected := r.move (.order (.select session n))
        SamePath r₀.calls selected.calls r (selected.move (.order .takeBack)) := by
  intro r₀ r content
  have hready₀ : Ready r₀.stage.source r₀ := ready_play timing now stage before
  obtain ⟨log, hfollow⟩ : ∃ log, (r₀.director.follow o).1 =
      (r₀.director.modify fun s => { s with log }).compile content := follow_of_isStart hstart
  let source := r₀.director.storyteller.source content
  have hbegun : Tells source r₀.calls log.choices (source.telling log.choices)
      (r₀.move (.order o)) := by
    rw [move, hfollow]
    exact tells_start_with hready₀ log content
  obtain ⟨hready, ns, htells⟩ : Ready r₀.stage.source r ∧
      ∃ ns, Tells source r₀.calls ns (source.telling ns) r :=
    tells_play (hready₀.order o) hbegun hafter
  refine ⟨?_, fun session n hselect hcontent => ?_⟩
  · have hagain : Tells source r.calls ns (source.telling ns)
        (r.move (.order (.compile content))) := by
      rw [← htells.choices]
      exact tells_again hready htells r.state.log
    exact samePath_of_tells htells hagain
  · intro selected
    have hoffered : Director.refusal? r.state session n = none := by
      cases hrefusal : Director.refusal? r.state session n with
      | none => rfl
      | some e =>
        rw [r.director.select_of_refused hrefusal] at hselect
        contradiction
    have hselected : Tells source r₀.calls (ns ++ [n]) (source.telling (ns ++ [n])) selected :=
      tells_select htells hoffered
    have hready' : Ready r₀.stage.source selected := hready.order _
    have hsource : selected.stage.source = r.stage.source :=
      hready'.source_eq.trans hready.source_eq.symm
    have hcontent' : selected.stage.content = content :=
      (congrArg Source.content hsource).trans hcontent
    exact samePath_of_tells htells (tells_takeBack hready' hselected hcontent')

open Rehearsal in
/-- At the crossroads the forest path is taken, then the choice to keep walking is taken back. -/
theorem restart_retells_crossroads :
    let r₀ := opening {} 0 {}
    let r := r₀.play [.order (.compile ""), .order (.select 1 1)]
    let selected := r.move (.order (.select 1 2))
    Order.isStart (.compile "") = true ∧
      (∀ m ∈ [Move.order (.select 1 1)], m.Continues r₀.stage.source) ∧
      (r.director.select 1 2).2 = .ok () ∧
      SamePath r₀.calls r.calls r (r.move (.order (.compile ""))) ∧
      SamePath r₀.calls selected.calls r (selected.move (.order .takeBack)) := by
  intro r₀ r selected
  have hafter : ∀ m ∈ [Move.order (.select 1 1)], m.Continues r₀.stage.source := by
    intro m hm
    obtain rfl := List.mem_singleton.mp hm
    rfl
  obtain ⟨hagain, hback⟩ := restart_retells_path {} 0 {} [] [Move.order (.select 1 1)] (.compile "")
    rfl hafter
  exact ⟨rfl, hafter, by decide +kernel, hagain, hback 1 2 (by decide +kernel) (by decide +kernel)⟩

end Playthrough
