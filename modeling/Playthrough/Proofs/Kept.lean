import Playthrough.Proofs.Matched

/-!
# What is kept by every call

A director changes its front end only by calling it. So whatever each single call keeps true of the
front end is still true after anything that the director does: that the interpreter is open, that
the names of markers go up, or that the interpreter has received exactly what was sent.

## Main definitions

* `Frontend.Kept` — a property of front ends that every call keeps.

## Main results

* `Frontend.Kept.follow`, `Frontend.Kept.receive` — what is kept when the director follows an order
  or receives a reply.
* `Frontend.Kept.phase_follow_of_refused` — no session is started while requests are refused.
-/

namespace Playthrough

/-- A property of front ends that every call keeps. -/
structure Frontend.Kept {F : Type} [Frontend F] (P : F → Prop) : Prop where
  cue : ∀ q front, P front → P (Frontend.cue q front)
  mark : ∀ rows style front, P front → P (Frontend.mark rows style front).1
  send : ∀ r front, P front → P (Frontend.send r front).1

/-- A session whose request is refused has failed. -/
theorem Director.phase_request_of_refused {F : Type} [Frontend F] {d : Director F} {r : Request}
    {e : SendError} (h : (Frontend.send r d.front).2 = .error e) :
    (d.request r).state.phase = .failed := by
  have hsend : Frontend.send r d.front = ((Frontend.send r d.front).1, .error e) := Prod.ext rfl h
  rw [request, hsend]
  rfl

namespace Frontend.Kept

variable {F : Type} [Frontend F] {P : F → Prop} (kept : Frontend.Kept P)

include kept

/-- A property that every call keeps, as a relation of a front end with itself. -/
theorem matched : Frontend.Matched fun f g : F => f = g ∧ P f where
  content h := by rw [h.1]
  windowWidth h := by rw [h.1]
  listWidth h := by rw [h.1]
  cue q _ _ h := ⟨by rw [h.1], kept.cue q _ h.2⟩
  mark rows style _ _ h := ⟨⟨by rw [h.1], kept.mark rows style _ h.2⟩, by rw [h.1]⟩
  send r _ _ h := ⟨⟨by rw [h.1], kept.send r _ h.2⟩, by rw [h.1]⟩

theorem centre (v : IssueDisplay) {front : F} (h : P front) : P (v.centre front) :=
  (kept.matched.centre ⟨rfl, h⟩ v).2

variable {d : Director F} (h : P d.front)

include h

omit kept [Frontend F] in
theorem alike : Director.Alike (fun f g : F => f = g ∧ P f) d d :=
  ⟨rfl, rfl, rfl, h⟩

theorem showIssues : P d.showIssues.front :=
  (kept.matched.showIssues (alike h)).front.2

theorem stopSession : P d.stopSession.front :=
  (kept.matched.stopSession (alike h)).front.2

/-! ### Orders -/

theorem compile (content : String) : P (d.compile content).front :=
  (kept.matched.compile (alike h) content).front.2

theorem select (session : SessionId) (n : Nat) : P (d.select session n).1.front :=
  (kept.matched.select (alike h) session n).1.front.2

theorem visitNextIssue : P d.visitNextIssue.1.front :=
  (kept.matched.visitNextIssue (alike h)).1.front.2

/-- Following an order keeps what every call keeps. -/
theorem follow (o : Order) : P (d.follow o).1.front :=
  (kept.matched.follow (alike h) o).1.front.2

/-! ### Replies -/

theorem settlePoint : P d.settlePoint.front :=
  (kept.matched.settlePoint (alike h)).front.2

theorem perform (e : Event) : P (d.perform e).front :=
  (kept.matched.perform (alike h) e).front.2

/-- Receiving a reply keeps what every call keeps. -/
theorem receive (r : Reply) : P (d.receive r).1.front :=
  (kept.matched.receive (alike h) r).1.front.2

/-! ### Refused requests -/

/-- If every request is refused, a session that is started fails at once. -/
theorem phase_follow_of_refused
    (refused : ∀ r front, P front → ∃ e, (Frontend.send r front).2 = .error e) {o : Order}
    (ho : o.isStart = true) : (d.follow o).1.state.phase = .failed := by
  have hcompile (d : Director F) (hd : P d.front) (content : String) :
      (d.compile content).state.phase = .failed := by
    let opened := ((d.stopSession.modify Director.nextSession).cue .turnPage).showIssues
    have hopened : P opened.front := kept.showIssues (kept.cue .turnPage _ (kept.stopSession hd))
    obtain ⟨e, he⟩ := refused (.run content opened.state.session) opened.front hopened
    exact Director.phase_request_of_refused he
  cases o with
  | compile content => exact hcompile d h content
  | startOver => exact hcompile (d.modify fun s => { s with log := s.log.clear }) h _
  | takeBack => exact hcompile (d.modify fun s => { s with log := s.log.dropLast.1 }) h _
  | select session n => contradiction
  | nextIssue => contradiction
  | centre => contradiction

end Frontend.Kept

end Playthrough
