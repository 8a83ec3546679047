import Mathlib.Logic.Function.Iterate
import Playthrough.Proofs.Backstage

/-!
# Everything is delivered

A rehearsal is *settled* when no reply waits to be delivered. Delivering one reply after the other
settles it in the end: a reply leads to new output only if a choice of the log was submitted, and
there are only so many of them. Since nothing happens in a settled rehearsal any more, it does not
matter in how many rounds the replies are delivered.

## Main definitions

* `Rehearsal.IsSettled` — no reply waits.
* `Rehearsal.advance` — deliver one reply, and collect what the storyteller says to it.

## Main results

* `Rehearsal.isSettled_deliverAll` — nothing waits after everything was delivered.
* `Rehearsal.deliverAll_eq` — delivering everything leads to the one settled rehearsal that
  advancing leads to.
-/

namespace Playthrough

/-! ### What a reply costs -/

theorem ChoiceLog.unplayed_goLive_le (log : ChoiceLog) : log.goLive.1.unplayed ≤ log.unplayed := by
  unfold goLive
  split
  · exact Nat.zero_le _
  · exact Nat.le_refl _

theorem Director.unplayed_openPoint_le (s : PlayState) :
    (openPoint s).1.log.unplayed ≤ s.log.unplayed := by
  cases hpoint : s.point with
  | some p => exact Nat.le_of_eq (by rw [openPoint_of_some hpoint])
  | none =>
    obtain ⟨p, hopen, -, -⟩ := openPoint_of_none hpoint
    rw [hopen]
    show (if s.log.due.isSome then s.log else s.log.goLive.1).unplayed ≤ s.log.unplayed
    split
    · exact Nat.le_refl _
    · exact s.log.unplayed_goLive_le

/-- A reply leads to a request only if a choice of the log is taken. -/
theorem Step.unplayed {F : Type} {h : Happening F} {s s' : PlayState} {v v' : IssueDisplay}
    {cs : List Call} (step : Step h s v cs s' v') (hreply : h.isReply = true) :
    s'.log.unplayed ≤ s.log.unplayed ∧ (requests cs ≠ [] → s'.log.unplayed < s.log.unplayed) := by
  cases step with
  | start log content isStart sequel =>
    cases h <;> simp [Happening.isReply, Happening.isStart] at hreply isStart
  | select n p selected => simp [selected, Happening.isReply] at hreply
  | visit asked => simp [asked, Happening.isReply] at hreply
  | repeated x heard known =>
    exact ⟨Nat.le_refl _, fun h => absurd (Director.requests_failureCalls x) h⟩
  | reported x issues new left heard unknown added length =>
    refine ⟨Nat.le_refl _, fun h => absurd ?_ h⟩
    rw [requests_append, Director.requests_failureCalls, IssueDisplay.requests_updateCalls]
    rfl
  | offer c heard shown =>
    exact ⟨Director.unplayed_openPoint_le s, fun h => absurd rfl h⟩
  | replay n heard due sequel =>
    have hlog : s'.log = s.log.takeDue.1 := sequel.log_eq
    have hunplayed := s.log.unplayed_takeDue (Director.takeDue_of_replayedChoice due)
    rw [hlog]
    exact ⟨by omega, fun _ => by omega⟩
  | _ => exact ⟨Nat.le_refl _, fun h => absurd rfl h⟩

namespace Director

/-- A reply makes the storyteller say something only if a choice of the log is taken. -/
theorem unplayed_receive (d : Director (Recorder Stage)) (r : Reply) :
    (d.receive r).1.state.log.unplayed ≤ d.state.log.unplayed ∧
      ((d.receive r).1.storyteller.output ≠ d.storyteller.output →
        (d.receive r).1.state.log.unplayed < d.state.log.unplayed) := by
  have step := d.turn_step (.reply r)
  have hst := storyteller_of_kept (d.calls_happen (.reply r)) fun P hP h => hP.receive h r
  obtain ⟨hle, hlt⟩ := step.unplayed rfl
  refine ⟨hle, fun hsaid => hlt fun hnone => hsaid ?_⟩
  rw [hnone, Storyteller.sendAll_nil] at hst
  exact congrArg Storyteller.output hst

end Director

namespace Rehearsal

/-! ### Collecting -/

/-- The director of a rehearsal. -/
abbrev director (r : Rehearsal) : Director (Recorder Stage) :=
  r.bench.director

/-- No reply waits to be delivered. -/
def IsSettled (r : Rehearsal) : Prop :=
  r.inbox = [] ∧ r.director.storyteller.output = []

variable (r : Rehearsal)

@[simp] theorem state_collect : r.collect.state = r.state := rfl

@[simp] theorem calls_collect : r.collect.calls = r.calls := rfl

@[simp] theorem inbox_collect :
    r.collect.inbox = r.inbox ++ r.director.storyteller.output := rfl

@[simp] theorem output_collect : r.collect.director.storyteller.output = [] := rfl

variable {r}

theorem collect_of_output_eq_nil (h : r.director.storyteller.output = []) : r.collect = r := by
  obtain ⟨⟨⟨state, display, ⟨⟨⟨script, complaints, positions, output, received, closed⟩, content,
    tokens, windowWidth, listWidth, nextMarker⟩, calls⟩⟩, timer, timing⟩, inbox, held⟩ := r
  have houtput : output = [] := h
  subst houtput
  simp [collect, modifyStage, modifyRecorder, Workbench.modify, Storyteller.takeOutput, stage]

variable (r)

@[simp] theorem collect_collect : r.collect.collect = r.collect :=
  collect_of_output_eq_nil rfl

/-! ### One reply after the other -/

/-- Deliver one reply, and collect what the storyteller says to it. -/
def advance : Rehearsal :=
  r.deliverNext.1.collect

variable {r}

theorem advance_of_nil (h : r.collect.inbox = []) : r.advance = r.collect := by
  rw [advance, deliverNext]
  dsimp only
  rw [h, collect_collect]

theorem advance_of_cons {x : Reply} {rest : List Reply} (h : r.collect.inbox = x :: rest) :
    r.advance = ({ r.collect with inbox := rest }.onReply x).1.collect := by
  rw [advance, deliverNext]
  dsimp only
  rw [h]

theorem advance_collect : r.collect.advance = r.advance := by
  rw [advance, deliverNext, collect_collect]
  rfl

theorem IsSettled.collect_eq (h : r.IsSettled) : r.collect = r :=
  collect_of_output_eq_nil h.2

theorem IsSettled.advance_eq (h : r.IsSettled) : r.advance = r := by
  rw [advance_of_nil, h.collect_eq]
  rw [h.collect_eq, h.1]

theorem isSettled_of_inbox_collect (h : r.collect.inbox = []) : r.IsSettled :=
  List.append_eq_nil_iff.mp h

theorem collect_deliver (count : Nat) (r : Rehearsal) :
    (deliver count r).1.collect = advance^[count] r.collect := by
  induction count generalizing r with
  | zero => rfl
  | succ count ih =>
    rw [Function.iterate_succ_apply, advance_collect]
    cases hinbox : r.collect.inbox with
    | nil =>
      have hadvance : r.advance = r.collect := advance_of_nil hinbox
      have hfixed : r.collect.advance = r.collect := by rw [advance_collect, hadvance]
      have hdeliver : deliver (count + 1) r = (r.collect, []) := by
        simp only [deliver, deliverNext, hinbox]
      rw [hadvance, Function.iterate_fixed hfixed, hdeliver, collect_collect]
    | cons x rest =>
      rw [advance_of_cons hinbox, ← ih]
      simp only [deliver, deliverNext, hinbox]

theorem collect_deliver_collect (count : Nat) (r : Rehearsal) :
    (deliver count r.collect).1.collect = advance^[count] r.collect := by
  rw [collect_deliver, collect_collect]

/-- After some replies of the inbox were delivered, it has the others, and behind them what was said
meanwhile, for which a choice of the log was taken. -/
theorem iterate_advance (hout : r.director.storyteller.output = []) {count : Nat}
    (hcount : count ≤ r.inbox.length) :
    ∃ new, (advance^[count] r).inbox = r.inbox.drop count ++ new ∧
      (advance^[count] r).director.storyteller.output = [] ∧
      (advance^[count] r).state.log.unplayed ≤ r.state.log.unplayed ∧
      (new ≠ [] → (advance^[count] r).state.log.unplayed < r.state.log.unplayed) := by
  induction count with
  | zero => exact ⟨[], by simp, hout, Nat.le_refl _, fun h => absurd rfl h⟩
  | succ count ih =>
    obtain ⟨new, hinbox, hempty, hle, hlt⟩ := ih (Nat.le_of_succ_le hcount)
    rw [Function.iterate_succ_apply']
    generalize hg : advance^[count] r = g at hinbox hempty hle hlt ⊢
    have hcollect : g.collect = g := collect_of_output_eq_nil hempty
    let x := r.inbox[count]
    have hcons : g.inbox = x :: (r.inbox.drop (count + 1) ++ new) := by
      rw [hinbox, List.drop_eq_getElem_cons hcount, List.cons_append]
    obtain ⟨hle', hlt'⟩ := g.director.unplayed_receive x
    let out := (g.director.receive x).1.storyteller.output
    rw [advance_of_cons (hcollect.symm ▸ hcons), hcollect]
    refine ⟨new ++ out, ?_, rfl, ?_, ?_⟩
    · exact List.append_assoc _ _ _
    · exact Nat.le_trans hle' hle
    · intro hnew
      by_cases hout' : out = []
      · rw [hout', List.append_nil] at hnew
        exact Nat.lt_of_le_of_lt hle' (hlt hnew)
      · exact Nat.lt_of_lt_of_le (hlt' (hempty ▸ hout')) hle

/-! ### Rounds -/

theorem IsSettled.deliverRounds_fst (h : r.IsSettled) (rounds : Nat) :
    (deliverRounds rounds r).1 = r := by
  induction rounds with
  | zero => rfl
  | succ rounds ih =>
    have hround : (deliver r.collect.inbox.length r.collect).1 = r := by
      rw [h.collect_eq, h.1]
      rfl
    rw [deliverRounds]
    dsimp only
    rw [hround, ih]

theorem IsSettled.deliverAll_fst (h : r.IsSettled) : r.deliverAll.1 = r :=
  h.deliverRounds_fst _

theorem collect_deliverRounds (rounds : Nat) (r : Rehearsal) :
    ∃ count, (deliverRounds rounds r).1.collect = advance^[count] r.collect := by
  induction rounds generalizing r with
  | zero => exact ⟨0, rfl⟩
  | succ rounds ih =>
    obtain ⟨count, hcount⟩ := ih (deliver r.collect.inbox.length r.collect).1
    refine ⟨count + r.collect.inbox.length, ?_⟩
    rw [Function.iterate_add_apply, ← collect_deliver_collect]
    exact hcount

/-- A round settles a rehearsal, or a choice of the log is taken in it. -/
theorem isSettled_or_unplayed_lt (r : Rehearsal) :
    (deliver r.collect.inbox.length r.collect).1.IsSettled ∨
      (deliver r.collect.inbox.length r.collect).1.state.log.unplayed <
        r.state.log.unplayed := by
  obtain ⟨new, hinbox, -, -, hlt⟩ := iterate_advance (output_collect r) (Nat.le_refl _)
  rw [← collect_deliver_collect, List.drop_length, List.nil_append] at hinbox
  rw [← collect_deliver_collect] at hlt
  by_cases hnew : new = []
  · exact .inl (isSettled_of_inbox_collect (hinbox.trans hnew))
  · exact .inr (hlt hnew)

theorem isSettled_deliverRounds {rounds : Nat} (h : r.state.log.unplayed ≤ rounds) :
    (deliverRounds (rounds + 1) r).1.IsSettled := by
  induction rounds generalizing r with
  | zero =>
    rcases r.isSettled_or_unplayed_lt with hsettled | hlt
    · exact hsettled
    · omega
  | succ rounds ih =>
    rcases r.isSettled_or_unplayed_lt with hsettled | hlt
    · rw [deliverRounds]
      dsimp only
      rw [hsettled.deliverRounds_fst]
      exact hsettled
    · rw [deliverRounds]
      exact ih (by omega)

/-- What receiving and collecting keep true of the director is kept when everything is delivered. -/
theorem director_deliverAll {P : Director (Recorder Stage) → Prop}
    (hreceive : ∀ d x, P d → P (d.receive x).1)
    (hcollect : ∀ r : Rehearsal, P r.director → P r.collect.director) (h : P r.director) :
    P r.deliverAll.1.director := by
  have hadvance (r : Rehearsal) (h : P r.director) : P r.advance.director := by
    cases hinbox : r.collect.inbox with
    | nil =>
      rw [advance_of_nil hinbox]
      exact hcollect r h
    | cons x rest =>
      rw [advance_of_cons hinbox]
      refine hcollect _ ?_
      exact hreceive _ x (hcollect r h)
  obtain ⟨count, hcount⟩ := collect_deliverRounds (r.state.log.unplayed + 1) r
  have hend : r.deliverAll.1 = advance^[count] r.collect :=
    (isSettled_deliverRounds (Nat.le_refl _)).collect_eq.symm.trans hcount
  rw [hend]
  exact Function.Iterate.rec (fun r : Rehearsal => P r.director) (hcollect r h) hadvance count

variable (r)

/-- Nothing waits after everything was delivered. -/
theorem isSettled_deliverAll : r.deliverAll.1.IsSettled :=
  isSettled_deliverRounds (Nat.le_refl _)

variable {r}

/-- Delivering everything leads to the one settled rehearsal that advancing leads to. -/
theorem deliverAll_eq {s : Rehearsal} (hs : s.IsSettled) {count : Nat}
    (h : advance^[count] r.collect = s) : r.deliverAll.1 = s := by
  obtain ⟨count', hall⟩ := collect_deliverRounds (r.state.log.unplayed + 1) r
  have hsettled := r.isSettled_deliverAll
  have hend : r.deliverAll.1 = advance^[count'] r.collect := hsettled.collect_eq.symm.trans hall
  rcases Nat.le_total count count' with hle | hle
  · obtain ⟨more, rfl⟩ := Nat.exists_eq_add_of_le' hle
    rw [hend, Function.iterate_add_apply, h, Function.iterate_fixed hs.advance_eq]
  · obtain ⟨more, rfl⟩ := Nat.exists_eq_add_of_le' hle
    rw [← h, Function.iterate_add_apply, ← hend, Function.iterate_fixed hsettled.advance_eq]

end Rehearsal

end Playthrough
