import Playthrough.Proofs.Backstage
import Playthrough.Proofs.LogPath

/-!
# Which selections are accepted

A selection names a session and a choice. It is accepted if the session is the current one and still
running, and the choice is one of those that may be selected. An accepted selection is the only
thing that adds to the log, and the log takes it only while the story is live; that an open point
which is shown belongs to a live story is what keeps a selection from being lost.

The choice is submitted after it was logged. Whether the request is sent is up to the front end: the
session fails if it is not, and the choice stays in the log.

## Main definitions

* `Director.Accepts` — what has become of a director when a selection was accepted.

## Main results

* `Director.request_of_sent`, `Director.request_of_refused` — a request that is sent, or refused.
* `selection_is_guarded` — which selections are accepted, and what they do.
-/

namespace Playthrough

variable {F : Type}

theorem PlayState.mem_selectable {s : PlayState} {c : Choice} :
    c ∈ s.selectable ↔ ∃ p, s.point = some p ∧ p.replayed = false ∧ c ∈ p.choices := by
  rw [selectable]
  cases s.point with
  | none => simp
  | some p => cases hp : p.replayed <;> simp [hp]

namespace Director

variable [Frontend F] (d : Director (Recorder F))

/-! ### Requests -/

theorem request_of_sent {q : Request} (h : (Frontend.send q d.front).2 = .ok ()) :
    (d.request q).state = d.state ∧ (d.request q).calls = d.calls ++ [.send q] := by
  have hsend : Frontend.send q d.front = ((Frontend.send q d.front).1, .ok ()) := Prod.ext rfl h
  rw [request, hsend]
  exact ⟨rfl, Recorder.calls_send q d.front⟩

theorem request_of_refused {q : Request} {e : SendError}
    (h : (Frontend.send q d.front).2 = .error e) :
    (d.request q).state = { d.state with phase := .failed, point := none } ∧
      (d.request q).calls =
        d.calls ++ [.send q, .cue (.sayEnd (unavailableMessage e) .failed)] := by
  have hsend : Frontend.send q d.front = ((Frontend.send q d.front).1, .error e) := Prod.ext rfl h
  rw [request, hsend]
  refine ⟨rfl, ?_⟩
  change (Frontend.send q d.front).1.calls ++ [_] = _
  rw [Recorder.calls_send, List.append_assoc, List.singleton_append]

/-! ### Selections -/

/-- What has become of a director when the selection of a choice was accepted: the choice is the
last one in the log, the decision point is closed, and nothing was sent but the choice. If that was
refused, the session has failed. -/
structure Accepts (n : Nat) (d' : Director (Recorder F)) : Prop where
  session : d'.state.session = d.state.session
  log : d'.state.log = { d.state.log with choices := d.state.log.choices ++ [n] }
  point : d'.state.point = none
  submitted : ∃ tail, d'.calls = d.calls ++ tail ∧
    requests tail = [.continueWith n d.state.session]
  phase : d'.state.phase =
    match (Frontend.send (.continueWith n d.state.session) d.front).2 with
    | .ok () => .running
    | .error _ => .failed

/-- While the story is live, a selection that is not refused does all this. -/
theorem accepts_select {session : SessionId} {n : Nat}
    (h : refusal? d.state session n = none) (hlive : d.state.log.cursor = .live) :
    d.Accepts n (d.select session n).1 := by
  let logged := d.modify fun s => { s with log := (s.log.add n).1, point := none }
  have hselect : (d.select session n).1 = logged.request (.continueWith n d.state.session) := by
    rw [d.select_eq h]
    rfl
  have hrunning : d.state.phase = .running := (refusal?_eq_none_iff.mp h).2.1
  rw [hselect]
  cases hsend : (Frontend.send (.continueWith n d.state.session) d.front).2 with
  | ok =>
    obtain ⟨hstate, hcalls⟩ := logged.request_of_sent hsend
    refine ⟨?_, ?_, ?_, ⟨_, hcalls, rfl⟩, ?_⟩ <;> rw [hstate]
    · rfl
    · exact ChoiceLog.add_of_live hlive
    · rfl
    · rw [hsend]
      exact hrunning
  | error e =>
    obtain ⟨hstate, hcalls⟩ := logged.request_of_refused hsend
    refine ⟨?_, ?_, ?_, ⟨_, hcalls, rfl⟩, ?_⟩ <;> rw [hstate]
    · rfl
    · exact ChoiceLog.add_of_live hlive
    · rw [hsend]

theorem select_eq_ok_iff {session : SessionId} {n : Nat} :
    (d.select session n).2 = .ok () ↔ refusal? d.state session n = none := by
  cases h : refusal? d.state session n with
  | none => simp [d.select_eq h]
  | some e => simp [d.select_of_refused h]

/-- A choice that may be selected belongs to a live story. -/
theorem cursor_of_selectable (front : F) (hs : List (Happening F)) {c : Choice}
    (hc : c ∈ ((opening front).run hs).state.selectable) :
    ((opening front).run hs).state.log.cursor = .live := by
  obtain ⟨p, hpoint, hshown, -⟩ := PlayState.mem_selectable.mp hc
  have hfits := (onPath_run front hs).pointFits p hpoint
  rwa [hshown, if_neg Bool.false_ne_true] at hfits

end Director

/-- **Selections are guarded.** In every play, a selection is accepted just if it is for the current
session, the session is running, and the number is that of a choice that may be selected. An
accepted selection adds its choice to the log, closes the decision point and submits the choice,
once and whether or not that works. A refused one leaves everything as it is and makes no call. As
long as the log is being taken again, every selection is refused. -/
theorem selection_is_guarded [Frontend F] (front : F) (hs : List (Happening F))
    (session : SessionId) (n : Nat) :
    let d := (Director.opening front).run hs
    let selected := d.select session n
    (selected.2 = .ok () ↔
        session = d.state.session ∧ d.state.phase = .running ∧
          ∃ c ∈ d.state.selectable, c.number = n) ∧
      (selected.2 = .ok () → d.Accepts n selected.1) ∧
      (∀ e, selected.2 = .error e → selected.1 = d) ∧
      (d.state.log.cursor ≠ .live → ∃ e, selected.2 = .error e) := by
  intro d selected
  have hiff : selected.2 = .ok () ↔ session = d.state.session ∧ d.state.phase = .running ∧
      ∃ c ∈ d.state.selectable, c.number = n := by
    rw [d.select_eq_ok_iff, Director.refusal?_eq_none_iff]
    constructor
    · rintro ⟨hsession, hrunning, p, hpoint, hshown, c, hc, hn⟩
      exact ⟨hsession, hrunning, c, PlayState.mem_selectable.mpr ⟨p, hpoint, hshown, hc⟩, hn⟩
    · rintro ⟨hsession, hrunning, c, hc, hn⟩
      obtain ⟨p, hpoint, hshown, hc⟩ := PlayState.mem_selectable.mp hc
      exact ⟨hsession, hrunning, p, hpoint, hshown, c, hc, hn⟩
  have hlive (hok : selected.2 = .ok ()) : d.state.log.cursor = .live := by
    obtain ⟨-, -, c, hc, -⟩ := hiff.mp hok
    exact Director.cursor_of_selectable front hs hc
  refine ⟨hiff, fun hok => ?_, fun e he => ?_, fun hreplaying => ?_⟩
  · exact d.accepts_select (d.select_eq_ok_iff.mp hok) (hlive hok)
  · cases hrefusal : Director.refusal? d.state session n with
    | some f => exact congrArg Prod.fst (d.select_of_refused hrefusal)
    | none =>
      have hok : selected.2 = .ok () := d.select_eq_ok_iff.mpr hrefusal
      rw [hok] at he
      contradiction
  · cases hresult : selected.2 with
    | ok => exact absurd (hlive hresult) hreplaying
    | error e => exact ⟨e, rfl⟩

end Playthrough
