import Playthrough.Proofs.Calls

/-!
# What can happen in a play

The director of a play follows orders and receives replies, and the front end may change by itself,
as an editor does under the hands of its author. For each of these, one rule of the relation `Step`
says what becomes of the state of the play and of what is shown of its issues, and which calls are
made meanwhile. Whatever all plays keep is proved once for each rule.

## Main definitions

* `Order`, `Happening`, `Answer` — what a director is asked to do, what happens, what is answered.
* `Director.happen` — the director after something happened.
* `Step` — what something that happens may do.

## Main results

* `Director.happen_step` — one of the rules describes whatever happens.
-/

namespace Playthrough

/-! ### Orders and replies -/

/-- What a director is asked to do. -/
inductive Order where
  | compile (content : String)
  | startOver
  | takeBack
  | select (session : SessionId) (choice : Nat)
  | nextIssue
  | centre
  deriving DecidableEq, Repr, Inhabited

/-- Whether an order starts a session. -/
def Order.isStart : Order → Bool
  | .compile _ => true
  | .startOver => true
  | .takeBack => true
  | _ => false

/-- What happens in a turn. -/
inductive Happening (F : Type) where
  | order (o : Order)
  | reply (r : Reply)
  /-- The front end changes by itself. -/
  | change (f : F → F)

/-- What a turn answers to whoever caused it. -/
inductive Answer where
  /-- A session with this number was started. -/
  | session (session : SessionId)
  | selection (result : Except Refusal Unit)
  /-- The line of the selected issue, if there is one. -/
  | line (line : Option Nat)
  | outcome (outcome : Outcome)
  | nothing

namespace Happening

variable {F : Type}

/-- Whether a session is started. -/
def isStart : Happening F → Bool
  | .order o => o.isStart
  | _ => false

/-- Whether a reply is delivered. -/
def isReply : Happening F → Bool
  | .reply _ => true
  | _ => false

/-- Whether a choice is selected. -/
def isSelection : Happening F → Bool
  | .order (.select _ _) => true
  | _ => false

end Happening

namespace Director

variable {F : Type} [Frontend F]

/-- The director after an order, and the answer. -/
def follow (d : Director F) : Order → Director F × Answer
  | .compile content => (d.compile content, .session (d.compile content).state.session)
  | .startOver => (d.startOver, .session d.startOver.state.session)
  | .takeBack => (d.takeBack, .session d.takeBack.state.session)
  | .select session n => ((d.select session n).1, .selection (d.select session n).2)
  | .nextIssue => (d.visitNextIssue.1, .line d.visitNextIssue.2)
  | .centre => (d.centreList, .nothing)

/-- The director after something happened, and the answer. -/
def happen (d : Director (Recorder F)) : Happening F → Director (Recorder F) × Answer
  | .order o => d.follow o
  | .reply r => ((d.receive r).1, .outcome (d.receive r).2)
  | .change f => ({ d with front := { d.front with front := f d.front.front } }, .nothing)

end Director

/-! ### What can happen -/

/-- The running story hears a reply with an event. -/
def Heard {F : Type} (h : Happening F) (s : PlayState) (e : Event) : Prop :=
  h = .reply ⟨s.session, e⟩ ∧ s.phase = .running

theorem Heard.isStart_eq {F : Type} {h : Happening F} {s : PlayState} {e : Event}
    (heard : Heard h s e) : h.isStart = false := by
  rw [heard.1]
  rfl

/-- What may become of the state `s` of a play and of what is shown of its issues, with the calls
that are made meanwhile. There is one rule for each thing that a director does. -/
inductive Step {F : Type} (h : Happening F) (s : PlayState) (v : IssueDisplay) :
    List Call → PlayState → IssueDisplay → Prop where
  /-- Nothing changes, and nothing was heard that could change anything. -/
  | still (isStart : h.isStart = false) (unheard : ∀ e, Heard h s e → e = .stopAcknowledged) :
      Step h s v [] s v
  /-- A session is started. The log may have been shortened before. -/
  | start (log : ChoiceLog) (content : String) {s' : PlayState} {tail : List Call}
      (isStart : h.isStart = true)
      (sequel : Director.Sequel (Director.nextSession { s with log }) s' tail) :
      Step h s v (Director.openingCalls s v ++ .send (.run content (s.session + 1)) :: tail) s' {}
  /-- A choice is selected. -/
  | select (n : Nat) (p : DecisionPoint) {s' : PlayState} {tail : List Call}
      (selected : h = .order (.select s.session n)) (running : s.phase = .running)
      (point : s.point = some p) (shown : p.replayed = false)
      (offered : ∃ c ∈ p.choices, c.number = n)
      (sequel : Director.Sequel { s with log := (s.log.add n).1, point := none } s' tail) :
      Step h s v (.send (.continueWith n s.session) :: tail) s' v
  /-- The next issue is selected, if there is one. -/
  | visit (asked : h = .order .nextIssue) :
      Step h s v (s.issues.selectNext.2.map fun x => Call.cue (.moveTo x.line 0)).toList
        { s with issues := s.issues.selectNext.1 } v
  /-- The list of issues is moved to the middle. -/
  | centre (left : Float) (asked : h = .order .centre) : Step h s v [.cue (.placeList left)] s v
  /-- The story says a text. -/
  | say (text : String) (heard : Heard h s (.text text)) :
      Step h s v [.cue (.say text !s.log.isReplaying)] s v
  /-- A diagnostic is reported again. -/
  | repeated (x : Diagnostic) (heard : Heard h s (.diagnostic x)) (known : x ∈ s.issues.arrived) :
      Step h s v (Director.failureCalls x) s v
  /-- A diagnostic is reported for the first time. -/
  | reported (x : Diagnostic) (issues : IssueList) (new : List Marker) (left : Float)
      (heard : Heard h s (.diagnostic x)) (unknown : x ∉ s.issues.arrived)
      (added : issues = { s.issues with arrived := s.issues.arrived ++ [x] })
      (length : new.length = issues.shown.length) :
      Step h s v
        (Director.failureCalls x ++ IssueDisplay.updateCalls v.markers issues new left)
        { s with issues } ⟨new, issues.tally.total != 0⟩
  /-- A choice is offered at a decision point that the log answers. -/
  | absorb (c : Choice) (heard : Heard h s (.choice c))
      (replayed : (Director.openPoint s).2.replayed = true) :
      Step h s v [] { s with point := some { (Director.openPoint s).2 with
        choices := (Director.openPoint s).2.choices ++ [c] } } v
  /-- A choice is offered and shown. -/
  | offer (c : Choice) (heard : Heard h s (.choice c))
      (shown : (Director.openPoint s).2.replayed = false) :
      Step h s v [.cue (.offer s.session c (Director.openPoint s).2.animated)]
        { s with
          log := (Director.openPoint s).1.log
          point := some { (Director.openPoint s).2 with
            choices := (Director.openPoint s).2.choices ++ [c] } } v
  /-- All choices have been offered, and the log answers none of them. -/
  | rest (heard : Heard h s .inputRequired) (noneDue : Director.replayedChoice s = none) :
      Step h s v [.cue .scrollDown] s v
  /-- All choices have been offered, and the choice that is due is submitted. -/
  | replay (n : Nat) {s' : PlayState} {tail : List Call} (heard : Heard h s .inputRequired)
      (due : Director.replayedChoice s = some n)
      (sequel : Director.Sequel { s with log := s.log.takeDue.1, point := none } s' tail) :
      Step h s v (.cue .scrollDown :: .cue .rule :: .send (.continueWith n s.session) :: tail) s' v
  /-- The story ends. -/
  | conclude (phase : Phase) (text : String) (termination : Termination)
      (heard : Heard h s .storyCompleted ∨ Heard h s .unexpectedExit)
      (final : phase.isFinal = true) (accords : termination = .finished ↔ phase = .completed) :
      Step h s v [.cue (.sayEnd text termination)] { s with phase, point := none } v

namespace Director

variable {F : Type} [Frontend F] (d : Director (Recorder F))

theorem compile_step {h : Happening F} (log : ChoiceLog) (content : String)
    (hstart : h.isStart = true) :
    ∃ cs, ((d.modify fun s => { s with log }).compile content).calls = d.calls ++ cs ∧
      Step h d.state d.display cs ((d.modify fun s => { s with log }).compile content).state
        ((d.modify fun s => { s with log }).compile content).display := by
  obtain ⟨tail, hsequel, hdisplay, hcalls⟩ := (d.modify fun s => { s with log }).compile_eq content
  refine ⟨_, hcalls, ?_⟩
  rw [hdisplay]
  exact .start log content hstart hsequel

omit [Frontend F] in
theorem openPoint_of_some {s : PlayState} {p : DecisionPoint} (h : s.point = some p) :
    openPoint s = (s, p) := by
  rw [openPoint, h]

omit [Frontend F] in
/-- A new decision point is answered from the log if a choice is due, and shown otherwise. -/
theorem openPoint_of_none {s : PlayState} (h : s.point = none) :
    ∃ p, openPoint s =
        ({ s with log := if s.log.due.isSome then s.log else s.log.goLive.1 }, p) ∧
      p.choices = [] ∧ p.replayed = s.log.due.isSome := by
  cases hdue : s.log.due with
  | some n =>
    have hopen : openPoint s = (s, { replayed := true, animated := false }) := by
      rw [openPoint, h, hdue]
      rfl
    exact ⟨_, hopen, rfl, rfl⟩
  | none =>
    have hopen : openPoint s = ({ s with log := s.log.goLive.1 },
        { replayed := false, animated := !s.log.goLive.2 }) := by
      rw [openPoint]
      simp only [h, hdue]
      rfl
    exact ⟨_, hopen, rfl, rfl⟩

omit [Frontend F] in
theorem openPoint_of_replayed {s : PlayState} (h : (openPoint s).2.replayed = true) :
    (openPoint s).1 = s := by
  cases hpoint : s.point with
  | some p => rw [openPoint_of_some hpoint]
  | none =>
    obtain ⟨p, hopen, -, hreplayed⟩ := openPoint_of_none hpoint
    rw [hopen] at h ⊢
    have hdue : s.log.due.isSome = true := hreplayed.symm.trans h
    rw [if_pos hdue]

omit [Frontend F] in
theorem openPoint_fst (s : PlayState) :
    (openPoint s).1 = { s with log := (openPoint s).1.log } := by
  rcases s.point.eq_none_or_eq_some with hpoint | ⟨p, hpoint⟩
  · obtain ⟨p, hopen, -, -⟩ := openPoint_of_none hpoint
    rw [hopen]
  · rw [openPoint_of_some hpoint]

theorem perform_step {h : Happening F} {e : Event} (heard : Heard h d.state e) :
    ∃ cs, (d.perform e).calls = d.calls ++ cs ∧
      Step h d.state d.display cs (d.perform e).state (d.perform e).display := by
  cases e with
  | text s => exact ⟨_, rfl, .say s heard⟩
  | diagnostic x =>
    by_cases hx : x ∈ d.state.issues.arrived
    · obtain ⟨hstate, hdisplay, hcalls⟩ := d.addDiagnostic_of_mem hx
      refine ⟨_, hcalls, ?_⟩
      rw [perform, hstate, hdisplay]
      exact .repeated x heard hx
    · obtain ⟨issues, new, left, hissues, hlength, hstate, hdisplay, hcalls⟩ :=
        d.addDiagnostic_of_not_mem hx
      refine ⟨_, hcalls, ?_⟩
      rw [perform, hstate, hdisplay]
      exact .reported x issues new left heard hx hissues hlength
  | choice c =>
    obtain ⟨hstate, hdisplay, hcalls⟩ := d.addChoice_eq c
    refine ⟨_, hcalls, ?_⟩
    rw [perform, hstate, hdisplay]
    cases hp : (openPoint d.state).2.replayed with
    | true =>
      rw [openPoint_of_replayed hp]
      exact .absorb c heard hp
    | false =>
      rw [openPoint_fst]
      exact .offer c heard hp
  | inputRequired =>
    cases hdue : replayedChoice d.state with
    | none =>
      rw [perform, d.settlePoint_of_none hdue]
      exact ⟨_, rfl, .rest heard hdue⟩
    | some n =>
      obtain ⟨tail, hsequel, hdisplay, hcalls⟩ := d.settlePoint_of_some hdue
      refine ⟨_, hcalls, ?_⟩
      rw [perform, hdisplay]
      exact .replay n heard hdue hsequel
  | storyCompleted =>
    exact ⟨_, rfl, .conclude .completed endOfStoryMessage .finished (.inl heard) rfl (by simp)⟩
  | unexpectedExit =>
    exact ⟨_, rfl, .conclude .failed errorInStoryMessage .failed (.inr heard) rfl (by simp)⟩
  | stopAcknowledged =>
    refine ⟨[], (List.append_nil _).symm, .still heard.isStart_eq fun e he => ?_⟩
    have heq := he.1.symm.trans heard.1
    simpa using heq

/-- Whatever happens, one of the rules describes it. -/
theorem happen_step (h : Happening F) :
    ∃ cs, (d.happen h).1.calls = d.calls ++ cs ∧
      Step h d.state d.display cs (d.happen h).1.state (d.happen h).1.display := by
  match h with
  | .order (.compile content) => exact d.compile_step d.state.log content rfl
  | .order .startOver => exact d.compile_step d.state.log.clear (Frontend.content d.front) rfl
  | .order .takeBack => exact d.compile_step d.state.log.dropLast.1 (Frontend.content d.front) rfl
  | .order (.select session n) =>
    cases hrefusal : refusal? d.state session n with
    | some e =>
      refine ⟨[], by simp [happen, follow, d.select_of_refused hrefusal], ?_⟩
      simp only [happen, follow, d.select_of_refused hrefusal]
      exact .still rfl fun e he => by simpa using he.1
    | none =>
      obtain ⟨rfl, hrunning, p, hpoint, hshown, hoffered⟩ := refusal?_eq_none_iff.mp hrefusal
      obtain ⟨tail, hsequel, hdisplay, -, hcalls⟩ := d.select_of_offered hrefusal
      refine ⟨_, hcalls, ?_⟩
      rw [happen, follow, hdisplay]
      exact .select n p rfl hrunning hpoint hshown hoffered hsequel
  | .order .nextIssue =>
    obtain ⟨hstate, hdisplay, hcalls⟩ := d.visitNextIssue_eq
    refine ⟨_, hcalls, ?_⟩
    rw [happen, follow, hstate, hdisplay]
    exact .visit rfl
  | .order .centre =>
    refine ⟨_, d.calls_centreList, ?_⟩
    rcases d.centreCalls_cases with hcalls | ⟨left, hcalls⟩ <;> rw [hcalls]
    · exact .still rfl fun e he => by simpa using he.1
    · exact .centre left rfl
  | .reply r =>
    by_cases hr : d.state.hears r
    · rw [happen, d.receive_of_hears hr]
      exact d.perform_step ⟨by rw [← hr.2], hr.1⟩
    · rw [happen, d.receive_of_not_hears hr]
      refine ⟨[], (List.append_nil _).symm, .still rfl fun e he => absurd ?_ hr⟩
      obtain ⟨heq, hrunning⟩ := he
      obtain rfl : r = ⟨d.state.session, e⟩ := by simpa using heq
      exact ⟨hrunning, rfl⟩
  | .change f =>
    exact ⟨[], (List.append_nil _).symm, .still rfl fun e he => by simpa using he.1⟩

end Director

end Playthrough
