import Playthrough.Proofs.Chronicles
import Playthrough.Proofs.ConsoleRehearsal

/-!
# Receiving ends

A console receives replies in rounds: it takes the replies that are there, receives them one after
the other, and looks again, until there are none. Receiving a reply may submit a choice, to which
the storyteller has more to say, and a script may lead in circles. Yet receiving ends, whatever
state the console is in. Each request takes a choice of the log that was still to be taken, and a
round after which there are replies again has made a request.

## Main definitions

* `Director.recorded`, `Director.requestsOn` — a director on a recorded front end, and the requests
  that receiving a reply makes.
* `Console.requestsOn` — the requests that receiving some replies makes.
* `Console.Spends` — requests that were made, each for a choice of the log.
* `Console.Receives` — receiving in rounds until there are no replies, however many rounds it takes.

## Main results

* `Console.spends_foldl_receive` — what some replies cost.
* `Console.Receives.unique`, `Console.Receives.spends` — how receiving ends, if it does.
* `Console.receives_receiveRounds` — it does, in one round more than there are choices to be taken.
* `receiving_ends` — receiving ends with nothing left to receive.
-/

namespace Playthrough

/-! ### Requests made on a reply -/

section

variable {F : Type} [Frontend F]

/-- A recorded front end answers as the front end does. -/
theorem Recorder.matched : Frontend.Matched fun (f : F) (r : Recorder F) => f = r.front where
  content h := congrArg Frontend.content h
  windowWidth h := congrArg Frontend.windowWidth h
  listWidth h := congrArg Frontend.listWidth h
  cue q _ _ h := congrArg (Frontend.cue q) h
  mark rows style _ _ h :=
    ⟨congrArg (fun f => (Frontend.mark rows style f).1) h,
      congrArg (fun f => (Frontend.mark rows style f).2) h⟩
  send r _ _ h :=
    ⟨congrArg (fun f => (Frontend.send r f).1) h, congrArg (fun f => (Frontend.send r f).2) h⟩

namespace Director

omit [Frontend F] in
/-- A director whose front end is recorded from now on. -/
def recorded (d : Director F) : Director (Recorder F) where
  state := d.state
  display := d.display
  front := ⟨d.front, []⟩

/-- The requests that receiving a reply makes, whether they are sent or not. -/
def requestsOn (d : Director F) (r : Reply) : List Request :=
  requests (d.recorded.receive r).1.calls

variable (d : Director F)

omit [Frontend F] in
theorem alike_recorded : Alike (fun (f : F) (r : Recorder F) => f = r.front) d d.recorded :=
  ⟨rfl, rfl, rfl⟩

/-- A reply makes requests to go on with the current session, and each takes a choice of the log. -/
theorem requestsOn_spends (r : Reply) :
    (d.receive r).1.state.session = d.state.session ∧
      (∀ q ∈ d.requestsOn r, ∃ n, q = .continueWith n d.state.session) ∧
      (d.requestsOn r).length + (d.receive r).1.state.log.unplayed ≤ d.state.log.unplayed := by
  have halike := (Recorder.matched.receive d.alike_recorded r).1
  have step := d.recorded.turn_step (.reply r)
  have hcalls : (d.recorded.turn (.reply r)).calls = (d.recorded.receive r).1.calls :=
    (d.recorded.calls_happen (.reply r)).symm
  obtain ⟨hle, hlt⟩ : (d.recorded.receive r).1.state.log.unplayed ≤ d.state.log.unplayed ∧ _ :=
    step.unplayed rfl
  rw [halike.state, requestsOn, ← hcalls]
  rcases step.requests_cases with ⟨hstart, -⟩ | ⟨-, hsession, -, hnone | ⟨n, -, hone⟩⟩
  · contradiction
  · rw [hnone]
    refine ⟨hsession, by simp, ?_⟩
    rwa [List.length_nil, Nat.zero_add]
  · have hspent := hlt (by rw [hone]; simp)
    rw [hone]
    refine ⟨hsession, fun q hq => ⟨n, List.mem_singleton.mp hq⟩, ?_⟩
    rw [List.length_singleton, Nat.add_comm]
    exact hspent

end Director

end

/-! ### The storyteller on a terminal -/

/-- An interpreter after some requests. -/
def Interpreter.sendAll (i : Interpreter) (rs : List Request) : Interpreter :=
  rs.foldl (fun i r => (i.send r).1) i

/-- The interpreter of a terminal is served by requests alone. -/
theorem Terminal.served_interpreter :
    Frontend.Served Terminal.interpreter fun i r => (Interpreter.send i r).1 :=
  ⟨fun q t => (t.perform_eq q).1, fun _ _ _ => rfl, fun _ _ => rfl⟩

theorem Interpreter.sendAll_append (i : Interpreter) (rs rs' : List Request) :
    i.sendAll (rs ++ rs') = (i.sendAll rs).sendAll rs' :=
  List.foldl_append

theorem Interpreter.sendAll_scripted (st : Storyteller) (rs : List Request) :
    (Interpreter.scripted st).sendAll rs = .scripted (st.sendAll rs) := by
  induction rs generalizing st with
  | nil => rfl
  | cons r rs ih => exact ih (st.send r).1

namespace Storyteller

variable (st : Storyteller) (rs : List Request)

theorem closed_sendAll : (st.sendAll rs).closed = st.closed := by
  induction rs generalizing st with
  | nil => rfl
  | cons r rs ih => exact (ih (st.send r).1).trans (st.attends_send r).closed

/-- A storyteller notes what it is sent, unless it is closed. -/
theorem received_sendAll :
    (st.sendAll rs).received = st.received ++ if st.closed then [] else rs := by
  induction rs generalizing st with
  | nil => simp
  | cons r rs ih =>
    rw [sendAll_cons, ih, (st.attends_send r).closed]
    cases hclosed : st.closed with
    | true => simp [send, hclosed]
    | false =>
      rw [st.send_of_open hclosed r, received_answer]
      simp

end Storyteller

namespace Console

/-! ### What replies cost -/

/-- The requests that receiving some replies makes. -/
def requestsOn (c : Console) : List Reply → List Request
  | [] => []
  | r :: rs => c.bench.director.requestsOn r ++ (c.receive r).requestsOn rs

/-- Some requests lead from one console to another: they go on with the current session, and each
takes a choice of the log that was still to be taken. -/
structure Spends (c : Console) (rs : List Request) (c' : Console) : Prop where
  session : c'.state.session = c.state.session
  goesOn : ∀ r ∈ rs, ∃ n, r = .continueWith n c.state.session
  unplayed : rs.length + c'.state.log.unplayed ≤ c.state.log.unplayed

variable {c c' c'' : Console} {rs rs' : List Request}

theorem spends_of_state (h : c'.state = c.state) : c.Spends [] c' :=
  ⟨by rw [h], by simp, by simp [h]⟩

theorem Spends.trans (h : c.Spends rs c') (h' : c'.Spends rs' c'') : c.Spends (rs ++ rs') c'' := by
  refine ⟨h'.session.trans h.session, fun r hr => ?_, ?_⟩
  · rcases List.mem_append.mp hr with hr | hr
    · exact h.goesOn r hr
    · exact h.session ▸ h'.goesOn r hr
  · have := h.unplayed
    have := h'.unplayed
    rw [List.length_append]
    omega

/-- What some replies cost. -/
theorem spends_foldl_receive (c : Console) (replies : List Reply) :
    c.Spends (c.requestsOn replies) (replies.foldl receive c) := by
  induction replies generalizing c with
  | nil => exact spends_of_state rfl
  | cons r replies ih =>
    obtain ⟨hsession, hgoesOn, hunplayed⟩ := c.bench.director.requestsOn_spends r
    have hreply : c.Spends (c.bench.director.requestsOn r) (c.receive r) :=
      ⟨hsession, hgoesOn, hunplayed⟩
    exact hreply.trans (ih (c.receive r))

/-- The interpreter has been sent the requests. -/
theorem interpreter_foldl_receive (c : Console) (replies : List Reply) :
    (replies.foldl receive c).terminal.interpreter =
      c.terminal.interpreter.sendAll (c.requestsOn replies) := by
  induction replies generalizing c with
  | nil => rfl
  | cons r replies ih =>
    let d := c.bench.director
    have hfront : (d.receive r).1.front = (d.recorded.receive r).1.front.front :=
      (Recorder.matched.receive d.alike_recorded r).1.front
    have hserved : (c.receive r).terminal.interpreter =
        c.terminal.interpreter.sendAll (d.requestsOn r) :=
      (congrArg Terminal.interpreter hfront).trans <|
        Terminal.served_interpreter.part_of_kept (d := d.recorded) (List.nil_append _).symm
          fun P hP h => hP.receive h r
    rw [List.foldl_cons, ih, hserved, requestsOn, Interpreter.sendAll_append]

/-! ### Rounds -/

/-- The console after a round: the replies that are there are taken and received. -/
def round (c : Console) : Console :=
  c.takeReplies.2.foldl receive c.takeReplies.1

/-- The requests that are made in a round. -/
def requestsOfRound (c : Console) : List Request :=
  c.takeReplies.1.requestsOn c.takeReplies.2

/-- Receiving in rounds until there are no replies, with the requests that are made. Nothing bounds
the number of rounds. -/
inductive Receives : Console → List Request → Console → Prop where
  | rest {c : Console} (none : c.takeReplies.2 = []) : Receives c [] c.takeReplies.1
  | round {c c' : Console} {rs : List Request} (some : c.takeReplies.2 ≠ [])
      (more : Receives c.round rs c') : Receives c (c.requestsOfRound ++ rs) c'

/-- Receiving ends in one way at most. -/
theorem Receives.unique (h : c.Receives rs c') (h' : c.Receives rs' c'') :
    rs' = rs ∧ c'' = c' := by
  induction h generalizing rs' with
  | rest none =>
    cases h' with
    | rest => exact ⟨rfl, rfl⟩
    | round some => exact absurd none some
  | round some more ih =>
    cases h' with
    | rest none => exact absurd none some
    | round _ more' =>
      obtain ⟨rfl, rfl⟩ := ih more'
      exact ⟨rfl, rfl⟩

theorem spends_round (c : Console) : c.Spends c.requestsOfRound c.round := by
  have htaken : c.Spends [] c.takeReplies.1 := spends_of_state rfl
  exact htaken.trans (c.takeReplies.1.spends_foldl_receive c.takeReplies.2)

/-- What receiving costs. -/
theorem Receives.spends (h : c.Receives rs c') : c.Spends rs c' := by
  induction h with
  | rest => exact spends_of_state rfl
  | round some more ih => exact (spends_round _).trans ih

/-! ### Rounds with a storyteller -/

variable {st : Storyteller}

theorem takeReplies_of_scripted (h : c.terminal.interpreter = .scripted st) :
    c.takeReplies = (c.modifyTerminal fun t =>
      { t with interpreter := .scripted { st with output := [] } }, st.output) := by
  simp only [takeReplies, Terminal.takeReplies, h]
  rfl

/-- Where there is nothing to take, nothing changes. -/
theorem takeReplies_of_silent (h : c.terminal.interpreter = .scripted st) (hout : st.output = []) :
    c.takeReplies = (c, []) := by
  have hst : ({ st with output := [] } : Storyteller) = st := by rw [← hout]
  rw [takeReplies_of_scripted h, hst, ← h, hout]
  rfl

/-- After a round, the storyteller has nothing to say but its answers to the requests. -/
theorem interpreter_round (h : c.terminal.interpreter = .scripted st) :
    c.round.terminal.interpreter =
      .scripted ({ st with output := [] }.sendAll c.requestsOfRound) := by
  rw [round, interpreter_foldl_receive, ← requestsOfRound, ← Interpreter.sendAll_scripted,
    takeReplies_of_scripted h]
  rfl

/-- When receiving has ended, the storyteller has nothing more to say. It has received the requests,
unless it is closed. -/
theorem Receives.storyteller (hreceives : c.Receives rs c')
    (h : c.terminal.interpreter = .scripted st) :
    ∃ st', c'.terminal.interpreter = .scripted st' ∧ st'.output = [] ∧
      st'.received = st.received ++ if st.closed then [] else rs := by
  induction hreceives generalizing st with
  | rest none =>
    rw [takeReplies_of_scripted h]
    exact ⟨{ st with output := [] }, rfl, rfl, by simp⟩
  | round some more ih =>
    obtain ⟨st', hlast, hout, hreceived⟩ := ih (interpreter_round h)
    refine ⟨st', hlast, hout, ?_⟩
    rw [hreceived, Storyteller.received_sendAll, Storyteller.closed_sendAll, List.append_assoc]
    cases st.closed <;> simp

/-- Receiving ends in one round more than there are choices to be taken. -/
theorem receives_receiveRounds (h : c.terminal.interpreter = .scripted st) {rounds : Nat}
    (hrounds : st.output = [] ∨ c.state.log.unplayed < rounds) :
    ∃ rs, c.Receives rs (receiveRounds rounds c) := by
  induction rounds generalizing c st with
  | zero =>
    have hsilent := takeReplies_of_silent h (hrounds.resolve_right (Nat.not_lt_zero _))
    have hrest : c.Receives [] c.takeReplies.1 := .rest (by rw [hsilent])
    rw [hsilent] at hrest
    exact ⟨[], hrest⟩
  | succ rounds ih =>
    have hreplies : c.takeReplies.2 = st.output := by rw [takeReplies_of_scripted h]
    by_cases hout : st.output = []
    · have hend : receiveRounds (rounds + 1) c = c.takeReplies.1 := by
        rw [receiveRounds, takeReplies_of_silent h hout]
      rw [hend]
      exact ⟨[], .rest (hreplies.trans hout)⟩
    · have hmore : receiveRounds (rounds + 1) c = receiveRounds rounds c.round := by
        obtain ⟨x, xs, hcons⟩ := List.exists_cons_of_ne_nil (hreplies ▸ hout)
        have htake : c.takeReplies = (c.takeReplies.1, x :: xs) := Prod.ext rfl hcons
        rw [receiveRounds, round, htake]
      -- nothing was requested in this round, or a choice of the log was taken for it
      have hnext : ({ st with output := [] }.sendAll c.requestsOfRound).output = [] ∨
          c.round.state.log.unplayed < rounds := by
        cases hrequests : c.requestsOfRound with
        | nil => exact .inl rfl
        | cons r rs =>
          have hspent := c.spends_round.unplayed
          rw [hrequests, List.length_cons] at hspent
          have := hrounds.resolve_left hout
          exact .inr (by omega)
      obtain ⟨rs, hrest⟩ := ih (interpreter_round h) hnext
      rw [hmore]
      exact ⟨_, .round (hreplies ▸ hout) hrest⟩

end Console

/-- **Receiving ends.** Take a console in any state whatever on a scripted interpreter: any script,
which may lead in circles, any log and cursor, any decision point and any output that is there.
Receiving in rounds until there are no replies comes to an end, and that is where `receiveAll`
leads. The storyteller has nothing more to say then. All requests that were made go on with the
current session. There are none of them if the story is live, and otherwise no more than there were
choices at and behind the cursor. -/
theorem receiving_ends {c : Console} {st : Storyteller}
    (scripted : c.terminal.interpreter = .scripted st) :
    ∃ rs st', c.Receives rs c.receiveAll ∧
      (∀ rs' c', c.Receives rs' c' → rs' = rs ∧ c' = c.receiveAll) ∧
      c.receiveAll.terminal.interpreter = .scripted st' ∧ st'.output = [] ∧
      st'.received = st.received ++ (if st.closed then [] else rs) ∧
      (∀ r ∈ rs, ∃ n, r = .continueWith n c.state.session) ∧
      (c.state.log.cursor = .live → rs = []) ∧
      ∀ i, c.state.log.cursor = .next i → rs.length ≤ c.state.log.choices.length - i := by
  obtain ⟨rs, hreceives⟩ :=
    Console.receives_receiveRounds scripted (.inr (Nat.lt_succ_self c.state.log.unplayed))
  obtain ⟨st', hlast, hout, hreceived⟩ := hreceives.storyteller scripted
  have hcost : rs.length ≤ c.state.log.unplayed :=
    Nat.le_of_add_right_le hreceives.spends.unplayed
  refine ⟨rs, st', hreceives, fun rs' c' h => hreceives.unique h, hlast, hout, hreceived,
    hreceives.spends.goesOn, fun hlive => ?_, fun i hnext => ?_⟩
  · rw [ChoiceLog.unplayed, hlive] at hcost
    exact List.length_eq_zero_iff.mp (Nat.le_zero.mp hcost)
  · rwa [ChoiceLog.unplayed, hnext] at hcost

/-- A story that leads back to its only decision point, with two choices still to be taken. The
decision point has been said and not been received. -/
theorem receiving_ends_on_roundabout :
    let st : Storyteller :=
      { script := ⟨[{ branches := [⟨"Round again", 0⟩] }]⟩
        positions := [(7, 0)]
        output := [⟨7, .choice ⟨1, "Round again"⟩⟩, ⟨7, .inputRequired⟩] }
    let state : PlayState := { session := 7, phase := .running, log := ⟨[1, 1, 1], .next 1⟩ }
    let front : Terminal := { interpreter := .scripted st, content := "" }
    let c : Console := ⟨⟨{ state, front }, .start {} 0, {}⟩, ⟨some 0⟩⟩
    c.Receives [.continueWith 1 7, .continueWith 1 7] c.receiveAll ∧
      c.receiveAll.state.log = ⟨[1, 1, 1], .live⟩ ∧
      c.receiveAll.state.selectable = [⟨1, "Round again"⟩] := by
  intro st state front c
  obtain ⟨rs, st', hreceives, -, hlast, -, hreceived, -⟩ := @receiving_ends c st rfl
  have hend : c.receiveAll.terminal.interpreter = .scripted
      { st with output := [], received := [.continueWith 1 7, .continueWith 1 7] } := by
    decide +kernel
  have hrequests : rs = [.continueWith 1 7, .continueWith 1 7] := by
    rw [Interpreter.scripted.inj (hlast.symm.trans hend)] at hreceived
    exact hreceived.symm
  exact ⟨hrequests ▸ hreceives, by decide +kernel, by decide +kernel⟩

end Playthrough
