import Playthrough.Proofs.Turn

/-!
# Superseded sessions do not interfere

Sessions are numbered upwards, so a session that another one has taken the place of never comes
back. What is still delivered of it, and what is still selected in it, is refused without a trace:
leaving such turns out of a play changes nothing about the others.

## Main definitions

* `Turn.IsSuperseded` — a turn with a reply or a selection of a session that is not the current one.
* `Thinned` — some turns, with superseded ones left out.

## Main results

* `Director.happen_of_isSuperseded` — a superseded turn changes nothing.
* `Director.session_le_run` — the number of the session only goes up.
* `superseded_sessions_do_not_interfere` — the rest of a play does not depend on superseded turns.
-/

namespace Playthrough

variable {F : Type}

/-- A reply of a session that is not the current one or that arrives before the first session, or a
selection in a session that is not the current one. -/
def Turn.IsSuperseded (t : Turn F) : Prop :=
  match t.happening with
  | .reply r => t.before.phase = .idle ∨ r.session ≠ t.before.session
  | .order (.select session _) => session ≠ t.before.session
  | _ => False

/-- The second list of turns is the first one with some superseded turns left out. -/
inductive Thinned : List (Turn F) → List (Turn F) → Prop where
  | nil : Thinned [] []
  | keep (t : Turn F) {ts kept : List (Turn F)} (rest : Thinned ts kept) :
      Thinned (t :: ts) (t :: kept)
  | drop (t : Turn F) (superseded : t.IsSuperseded) {ts kept : List (Turn F)}
      (rest : Thinned ts kept) : Thinned (t :: ts) kept

namespace Director

variable [Frontend F] (d : Director (Recorder F)) (h : Happening F)

/-- A superseded turn leaves the director, the front end and the recorded calls as they are. -/
theorem happen_of_isSuperseded (hs : (d.turn h).IsSuperseded) : (d.happen h).1 = d := by
  match h with
  | .reply r =>
    refine d.receive_of_not_hears fun hears => ?_
    rcases hs with hidle | hsession
    · exact absurd (hears.1.symm.trans hidle) (by decide)
    · exact hsession hears.2
  | .order (.select session n) =>
    have hne : session ≠ d.state.session := hs
    have hrefusal : refusal? d.state session n = some (.otherSession session d.state.session) := by
      simp [refusal?, hne]
    rw [happen, follow, d.select_of_refused hrefusal]

theorem thinned_turns {hs : List (Happening F)} {kept : List (Turn F)}
    (hthin : Thinned (d.turns hs) kept) :
    d.turns (kept.map Turn.happening) = kept ∧
      d.run (kept.map Turn.happening) = d.run hs := by
  induction hs generalizing d kept with
  | nil =>
    cases hthin
    exact ⟨rfl, rfl⟩
  | cons h hs ih =>
    cases hthin with
    | keep _ rest =>
      obtain ⟨hturns, hrun⟩ := ih (d.happen h).1 rest
      exact ⟨congrArg (d.turn h :: ·) hturns, hrun⟩
    | drop _ superseded rest =>
      have hsame := d.happen_of_isSuperseded h superseded
      rw [hsame] at rest
      obtain ⟨hturns, hrun⟩ := ih d rest
      refine ⟨hturns, hrun.trans ?_⟩
      change _ = (d.happen h).1.run hs
      rw [hsame]

end Director

/-! ### The numbers of sessions -/

/-- A step keeps the number of the session or takes the next one. -/
theorem Step.session_eq {h : Happening F} {s s' : PlayState} {v v' : IssueDisplay} {cs : List Call}
    (step : Step h s v cs s' v') :
    s'.session = if h.isStart then s.session + 1 else s.session := by
  cases step with
  | still isStart => simp [isStart]
  | start _ _ isStart sequel =>
    rw [if_pos isStart, sequel.session_eq]
    rfl
  | select _ _ selected _ _ _ _ sequel => rw [selected, sequel.session_eq]; rfl
  | visit asked => rw [asked]; rfl
  | centre _ asked => rw [asked]; rfl
  | say _ heard => simp [heard.isStart_eq]
  | repeated _ heard => simp [heard.isStart_eq]
  | reported _ _ _ _ heard => simp [heard.isStart_eq]
  | absorb _ heard => simp [heard.isStart_eq]
  | offer _ heard => simp [heard.isStart_eq]
  | rest heard => simp [heard.isStart_eq]
  | replay _ heard _ sequel => rw [sequel.session_eq, heard.isStart_eq]; rfl
  | conclude _ _ _ heard =>
    rcases heard with heard | heard <;> simp [heard.isStart_eq]

namespace Director

variable [Frontend F] (d : Director (Recorder F))

theorem session_le_happen (h : Happening F) : d.state.session ≤ (d.happen h).1.state.session := by
  rw [(d.turn_step h).session_eq]
  split
  · exact Nat.le_succ _
  · exact Nat.le_refl _

theorem session_le_run (hs : List (Happening F)) : d.state.session ≤ (d.run hs).state.session := by
  induction hs using List.reverseRecOn with
  | nil => exact Nat.le_refl _
  | append_singleton hs h ih =>
    rw [run_append, run_singleton]
    exact Nat.le_trans ih (session_le_happen _ h)

/-- The state that a turn found comes after that of the whole play. -/
theorem session_le_before {hs : List (Happening F)} {t : Turn F} (ht : t ∈ d.turns hs) :
    d.state.session ≤ t.before.session := by
  induction hs generalizing d with
  | nil => simp at ht
  | cons h hs ih =>
    rcases List.mem_cons.mp ht with rfl | ht
    · exact Nat.le_refl _
    · exact Nat.le_trans (d.session_le_happen h) (ih _ ht)

end Director

variable [Frontend F]

/-- **Superseded sessions do not interfere.** Leave any superseded turns out of a play: the other
turns find and leave the same states, give the same answers and make the same calls, and the
director behind them is the same, with its front end and all recorded calls. A session that is not
current any more never becomes current again, and every later turn with a reply of it is
superseded. -/
theorem superseded_sessions_do_not_interfere (front : F) (hs : List (Happening F)) :
    (∀ kept, Thinned ((Director.opening front).turns hs) kept →
      (Director.opening front).turns (kept.map Turn.happening) = kept ∧
        (Director.opening front).run (kept.map Turn.happening) = (Director.opening front).run hs) ∧
      ∀ earlier between later, hs = earlier ++ between ++ later →
        let old := ((Director.opening front).run earlier).state.session
        let superseding := (Director.opening front).run (earlier ++ between)
        superseding.state.session ≠ old →
          ((Director.opening front).run hs).state.session ≠ old ∧
            ∀ t ∈ superseding.turns later, t.before.session ≠ old ∧
              ∀ e, t.happening = .reply ⟨old, e⟩ → t.IsSuperseded := by
  refine ⟨fun kept hthin => (Director.opening front).thinned_turns hthin, ?_⟩
  rintro earlier between later rfl old superseding hne
  have hle : old ≤ superseding.state.session := by
    simpa [superseding] using ((Director.opening front).run earlier).session_le_run between
  have hlater := superseding.session_le_run later
  refine ⟨?_, fun t ht => ?_⟩
  · rw [Director.run_append]
    exact fun heq => hne (Nat.le_antisymm (heq ▸ hlater) hle)
  · have hbefore := superseding.session_le_before ht
    have hold : t.before.session ≠ old := fun heq => hne (Nat.le_antisymm (heq ▸ hbefore) hle)
    refine ⟨hold, fun e he => ?_⟩
    rw [Turn.IsSuperseded, he]
    exact .inr hold.symm

end Playthrough
