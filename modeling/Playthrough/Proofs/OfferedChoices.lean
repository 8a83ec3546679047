import Playthrough.Proofs.LogPath
import Playthrough.Rehearsal

/-!
# What is submitted was offered or is due

A choice is submitted in one of two ways. Somebody selects it, and then it has been offered at the
decision point that is open. Or it is the choice of the log that is due when all choices of a point
have been offered; then something has been offered, but a story that was changed since the log was
made may not offer that choice any more. It is submitted all the same, and it is for the interpreter
to say what comes of it.

The choices of the open decision point are all that a selection is checked against. So it has to be
shown that they were offered in the current session and after its last submission. `Step.point_eq`
lists what may become of the point in a step.

## Main definitions

* `PlayState.offered` — the choices of the open decision point.
* `OfferedSince` — a choice was offered in a session, and nothing was submitted in it since.

## Main results

* `Step.of_submission` — the steps that submit a choice.
* `submission_is_offered_or_due` — what is submitted was offered or is due.
* `replay_submits_unoffered_choice` — a choice that is due need not have been offered.
-/

namespace Playthrough

variable {F : Type}

/-- The choices that were offered at the open decision point, if there is one. -/
def PlayState.offered (s : PlayState) : List Choice :=
  match s.point with
  | some p => p.choices
  | none => []

/-- In some turns, the choice `c` was offered in the session while it was the current one, and
nothing was submitted in the session since. -/
def OfferedSince (ts : List (Turn F)) (session : SessionId) (c : Choice) : Prop :=
  ∃ earlier t later, ts = earlier ++ t :: later ∧ t.happening = .reply ⟨session, .choice c⟩ ∧
    t.before.session = session ∧
    ∀ u ∈ t :: later, ∀ n, Call.send (.continueWith n session) ∉ u.calls

theorem mem_submissions {cs : List Call} {n : Nat} {session : SessionId}
    (h : Call.send (.continueWith n session) ∈ cs) : n ∈ submissions cs :=
  List.mem_filterMap.mpr ⟨_, h, rfl⟩

theorem OfferedSince.append {ts : List (Turn F)} {session : SessionId} {c : Choice}
    (h : OfferedSince ts session c) {t : Turn F} (ht : submissions t.calls = []) :
    OfferedSince (ts ++ [t]) session c := by
  obtain ⟨earlier, u, later, rfl, hoffer, hsession, hnone⟩ := h
  refine ⟨earlier, u, later ++ [t], by simp, hoffer, hsession, fun v hv n hn => ?_⟩
  rcases List.mem_append.mp (List.cons_append ▸ hv) with hv | hv
  · exact hnone v hv n hn
  · obtain rfl := List.mem_singleton.mp hv
    simpa [ht] using mem_submissions hn

/-! ### The open decision point -/

namespace Director

/-- A point that is opened has no choices yet. -/
theorem choices_openPoint (s : PlayState) : (openPoint s).2.choices = s.offered := by
  cases hpoint : s.point with
  | some p => simp [openPoint_of_some hpoint, PlayState.offered, hpoint]
  | none =>
    obtain ⟨p, hopen, hchoices, -⟩ := openPoint_of_none hpoint
    simp [hopen, hchoices, PlayState.offered, hpoint]

theorem point_ne_none_of_replayedChoice {s : PlayState} {n : Nat} (h : replayedChoice s = some n) :
    s.point ≠ none := by
  intro hnone
  rw [replayedChoice, hnone] at h
  contradiction

end Director

/-- What a step may do to the open decision point: it is closed, or a choice is added, or it stays
as it is. Only a step that closes it starts a session or submits a choice. -/
theorem Step.point_eq {h : Happening F} {s s' : PlayState} {v v' : IssueDisplay} {cs : List Call}
    (step : Step h s v cs s' v') :
    s'.point = none ∨ s'.session = s.session ∧ submissions cs = [] ∧
      (s'.point = s.point ∨
        ∃ c, Heard h s (.choice c) ∧ s'.point ≠ none ∧ s'.offered = s.offered ++ [c]) := by
  cases step with
  | still isStart unheard => exact .inr ⟨rfl, rfl, .inl rfl⟩
  | start log content isStart sequel => exact .inl (sequel.point_eq rfl)
  | select n p selected running point shown offered sequel => exact .inl (sequel.point_eq rfl)
  | visit asked =>
    refine .inr ⟨rfl, ?_, .inl rfl⟩
    cases s.issues.selectNext.2 <;> rfl
  | centre left asked => exact .inr ⟨rfl, rfl, .inl rfl⟩
  | say text heard => exact .inr ⟨rfl, rfl, .inl rfl⟩
  | repeated x heard known =>
    exact .inr ⟨rfl, submissions_eq_nil fun c => Director.isQuiet_of_mem_failureCalls, .inl rfl⟩
  | reported x issues new left heard unknown added length =>
    refine .inr ⟨rfl, submissions_eq_nil fun c hc => ?_, .inl rfl⟩
    rcases List.mem_append.mp hc with hc | hc
    · exact Director.isQuiet_of_mem_failureCalls hc
    · exact IssueDisplay.isQuiet_of_mem_updateCalls hc
  | absorb c heard replayed =>
    refine .inr ⟨rfl, rfl, .inr ⟨c, heard, by simp, ?_⟩⟩
    exact congrArg (· ++ [c]) (Director.choices_openPoint s)
  | offer c heard shown =>
    refine .inr ⟨rfl, rfl, .inr ⟨c, heard, by simp, ?_⟩⟩
    exact congrArg (· ++ [c]) (Director.choices_openPoint s)
  | rest heard noneDue => exact .inr ⟨rfl, rfl, .inl rfl⟩
  | replay n heard due sequel => exact .inl (sequel.point_eq rfl)
  | conclude phase text termination heard final => exact .inl rfl

/-- A step that submits a choice does so for the current session, and submits no other one. Either
the choice was selected and offered at the open point, or it is the one that is due, and there is an
open point. -/
theorem Step.of_submission {h : Happening F} {s s' : PlayState} {v v' : IssueDisplay}
    {cs : List Call} (step : Step h s v cs s' v') {n : Nat} {session : SessionId}
    (hmem : Call.send (.continueWith n session) ∈ cs) :
    session = s.session ∧ submissions cs = [n] ∧
      (h = .order (.select session n) ∧ (∃ c ∈ s.offered, c.number = n) ∨
        Heard h s .inputRequired ∧ s.log.due = some n ∧ s.point ≠ none) := by
  have hn : n ∈ submissions cs := mem_submissions hmem
  cases step with
  | select m p selected running point shown offered sequel =>
    have htail := submissions_eq_nil sequel.isQuiet
    obtain rfl : n = m := by simpa [htail] using hn
    have hsession : session = s.session := by
      rcases List.mem_cons.mp hmem with heq | htail'
      · simpa using heq
      · simpa [htail] using mem_submissions htail'
    subst hsession
    refine ⟨rfl, by simp [htail], .inl ⟨selected, ?_⟩⟩
    simpa [PlayState.offered, point] using offered
  | replay m heard due sequel =>
    have htail := submissions_eq_nil sequel.isQuiet
    obtain rfl : n = m := by simpa [htail] using hn
    have hsession : session = s.session := by
      simp only [List.mem_cons, reduceCtorEq, false_or, Call.send.injEq,
        Request.continueWith.injEq, true_and] at hmem
      rcases hmem with hsession | htail'
      · exact hsession
      · simpa [htail] using mem_submissions htail'
    refine ⟨hsession, by simp [htail], .inr ⟨heard, ?_, ?_⟩⟩
    · rw [← ChoiceLog.takeDue_snd, Director.takeDue_of_replayedChoice due]
    · exact Director.point_ne_none_of_replayedChoice due
  | start log content isStart sequel =>
    have hquiet : submissions (Director.openingCalls s v) = [] :=
      submissions_eq_nil fun c => Director.isQuiet_of_mem_openingCalls
    have htail := submissions_eq_nil sequel.isQuiet
    rw [submissions_append, hquiet, List.nil_append] at hn
    exact absurd (htail ▸ hn : n ∈ ([] : List Nat)) List.not_mem_nil
  | visit asked => cases hfound : s.issues.selectNext.2 <;> simp [hfound] at hmem
  | repeated x heard known =>
    rw [submissions_eq_nil fun c => Director.isQuiet_of_mem_failureCalls] at hn
    contradiction
  | reported x issues new left heard unknown added length =>
    rw [submissions_append, submissions_eq_nil fun c => Director.isQuiet_of_mem_failureCalls,
      submissions_eq_nil fun c => IssueDisplay.isQuiet_of_mem_updateCalls] at hn
    contradiction
  | _ => simp at hmem

/-! ### Whole plays -/

/-- If a decision point is open, something was offered at it, and all that was offered at it was
offered in the current session and since its last submission. -/
structure PointOffered (ts : List (Turn F)) (s : PlayState) : Prop where
  some_offered : s.point ≠ none → s.offered ≠ []
  since : ∀ c ∈ s.offered, OfferedSince ts s.session c

variable [Frontend F]

theorem pointOffered_run (front : F) (hs : List (Happening F)) :
    PointOffered ((Director.opening front).turns hs) ((Director.opening front).run hs).state := by
  induction hs using List.reverseRecOn with
  | nil => exact ⟨fun h => absurd rfl h, by simp [PlayState.offered, Director.opening]⟩
  | append_singleton hs h ih =>
    let d := (Director.opening front).run hs
    rw [Director.turns_append, Director.turns_singleton, Director.run_append,
      Director.run_singleton]
    rcases (d.turn_step h).point_eq with hnone | ⟨hsession, hquiet, hpoint | ⟨c, heard, hopen, hc⟩⟩
    · have hempty : (d.happen h).1.state.offered = [] := by rw [PlayState.offered, hnone]
      refine ⟨fun hopen => absurd hnone hopen, fun c hc => ?_⟩
      exact absurd (hempty ▸ hc : c ∈ ([] : List Choice)) List.not_mem_nil
    · have hsame : (d.happen h).1.state.offered = d.state.offered := by
        rw [PlayState.offered, hpoint, PlayState.offered]
      refine ⟨fun hopen => ?_, fun c hc => ?_⟩
      · rw [hsame]
        exact ih.some_offered (hpoint ▸ hopen)
      · rw [hsession]
        exact (ih.since c (hsame ▸ hc)).append hquiet
    · refine ⟨fun _ => ?_, fun x hx => ?_⟩
      · rw [hc]
        exact List.concat_ne_nil _ _
      rw [hsession]
      rcases List.mem_append.mp (hc ▸ hx) with hx | hx
      · exact (ih.since x hx).append hquiet
      · obtain rfl := List.mem_singleton.mp hx
        refine ⟨_, d.turn h, [], rfl, heard.1, rfl, fun u hu n hn => ?_⟩
        obtain rfl := List.mem_singleton.mp hu
        simpa [hquiet] using mem_submissions hn

/-- **What is submitted was offered or is due.** When a choice is submitted in a play, it is for the
current session, and it is the only one in its turn. Either it was selected, and a choice with its
number was offered in the session since the last submission in it, or since its beginning if there
was none. Or input was required, it is the choice of the log that is due, and some choice was
offered in the session since then, whatever its number. -/
theorem submission_is_offered_or_due (front : F) (hs : List (Happening F)) (h : Happening F)
    {n : Nat} {session : SessionId}
    (hmem : Call.send (.continueWith n session) ∈
      (((Director.opening front).run hs).turn h).calls) :
    let d := (Director.opening front).run hs
    let ts := (Director.opening front).turns hs
    session = d.state.session ∧ submissions (d.turn h).calls = [n] ∧
      (h = .order (.select session n) ∧ (∃ c, OfferedSince ts session c ∧ c.number = n) ∨
        h = .reply ⟨session, .inputRequired⟩ ∧ d.state.log.due = some n ∧
          ∃ c, OfferedSince ts session c) := by
  intro d ts
  have hoffered : PointOffered ts d.state := pointOffered_run front hs
  obtain ⟨rfl, hall, hcase⟩ := (d.turn_step h).of_submission hmem
  refine ⟨rfl, hall, ?_⟩
  rcases hcase with ⟨hselect, c, hc, hn⟩ | ⟨heard, hdue, hopen⟩
  · exact .inl ⟨hselect, c, hoffered.since c hc, hn⟩
  · obtain ⟨c, hc⟩ := List.exists_mem_of_ne_nil _ (hoffered.some_offered hopen)
    exact .inr ⟨heard.1, hdue, c, hoffered.since c hc⟩

/-- Two choices are offered and the second one is selected. When the story is compiled again, it
offers only one choice. -/
def shrinkingPlay : List (Happening Stage) :=
  [.order (.compile ""), .reply ⟨1, .choice ⟨1, "Stay"⟩⟩, .reply ⟨1, .choice ⟨2, "Leave"⟩⟩,
    .reply ⟨1, .inputRequired⟩, .order (.select 1 2), .order (.compile ""),
    .reply ⟨2, .choice ⟨1, "Stay"⟩⟩]

/-- In the second session of `shrinkingPlay` the logged choice is submitted. -/
theorem submission_is_due_in_shrinkingPlay :
    let d := (Director.opening ({} : Stage)).run shrinkingPlay
    let ts := (Director.opening ({} : Stage)).turns shrinkingPlay
    Call.send (.continueWith 2 2) ∈ (d.turn (.reply ⟨2, .inputRequired⟩)).calls ∧
      d.state.log.due = some 2 ∧ ∃ c, OfferedSince ts 2 c := by
  intro d ts
  have hmem : Call.send (.continueWith 2 2) ∈ (d.turn (.reply ⟨2, .inputRequired⟩)).calls := by
    decide +kernel
  obtain ⟨-, -, ⟨hselect, -⟩ | ⟨-, hdue, hoffered⟩⟩ :=
    submission_is_offered_or_due ({} : Stage) shrinkingPlay (.reply ⟨2, .inputRequired⟩) hmem
  · simp at hselect
  · exact ⟨hmem, hdue, hoffered⟩

/-- Not every choice that is submitted was offered since the last submission: the one that the log
has for the second session of `shrinkingPlay` was not. -/
theorem replay_submits_unoffered_choice :
    ¬ ∀ (hs : List (Happening Stage)) (h : Happening Stage) (n : Nat) (session : SessionId),
      Call.send (.continueWith n session) ∈
          (((Director.opening ({} : Stage)).run hs).turn h).calls →
        ∃ c, OfferedSince ((Director.opening ({} : Stage)).turns hs) session c ∧ c.number = n := by
  intro hclaim
  obtain ⟨c, ⟨earlier, t, later, hts, hoffer, -⟩, hnumber⟩ :=
    hclaim shrinkingPlay (.reply ⟨2, .inputRequired⟩) 2 2 (by decide +kernel)
  have hmem : Happening.reply ⟨2, .choice c⟩ ∈ shrinkingPlay := by
    rw [← Director.map_happening_turns (Director.opening ({} : Stage)) shrinkingPlay, hts]
    exact List.mem_map.mpr ⟨t, by simp, hoffer⟩
  obtain rfl : c = ⟨1, "Stay"⟩ := by simpa [shrinkingPlay] using hmem
  simp at hnumber

end Playthrough
