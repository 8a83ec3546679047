import Mathlib.Data.List.ModifyLast
import Playthrough.Proofs.RequestOrder
import Playthrough.Proofs.Transcript

/-!
# The pages of a play

The transcript of a play is cut into pages, and the turns of a play into sessions. Each session
fills one page, and nothing stands outside the pages. So what one page keeps while its session goes
on is kept by all of them, and the last page tells how the current session is getting on.

## Main definitions

* `parts` — a list, cut in front of some of its members.
* `pages`, `sessions` — the pages of a transcript, and the sessions of some turns.
* `InOrder` — how the page of a session is laid out.

## Main results

* `pages_run`, `flatten_pages_run` — every session fills one page, and nothing stands outside them.
* `inOrder_of_mem_sessions` — the page of every session is in order.
* `transcript_is_in_order` — the transcript of every play.
-/

namespace Playthrough

/-! ### Parts of a list -/

section Parts

variable {α : Type} {p : α → Bool}

/-- The parts of a list, each of which begins with a member that has the property. -/
def parts (p : α → Bool) (l : List α) : List (List α) :=
  l.foldl (fun xs a => if p a then xs ++ [[a]] else xs.modifyLast (· ++ [a])) []

theorem parts_append_singleton (l : List α) (a : α) :
    parts p (l ++ [a]) =
      if p a then parts p l ++ [[a]] else (parts p l).modifyLast (· ++ [a]) := by
  rw [parts, List.foldl_append]
  rfl

/-- What does not begin a part goes to the last one, if there is any. -/
theorem parts_append (l : List α) {l' : List α} (h : ∀ a ∈ l', p a = false) :
    parts p (l ++ l') = (parts p l).modifyLast (· ++ l') := by
  induction l' using List.reverseRecOn with
  | nil =>
    rcases List.eq_nil_or_concat (parts p l) with hl | ⟨xs, x, hl⟩
    · rw [List.append_nil, hl]
      rfl
    · simp [hl, List.modifyLast_concat]
  | append_singleton l' a ih =>
    rw [← List.append_assoc, parts_append_singleton, ih fun b hb => h b (by simp [hb]),
      if_neg (by simp [h a])]
    rcases List.eq_nil_or_concat (parts p l) with hl | ⟨xs, x, hl⟩
    · rw [hl]
      rfl
    · rw [hl, List.concat_eq_append]
      simp only [List.modifyLast_concat, List.append_assoc]

/-- One more part. -/
theorem parts_append_cons (l : List α) {a : α} {l' : List α} (ha : p a = true)
    (h : ∀ b ∈ l', p b = false) : parts p (l ++ a :: l') = parts p l ++ [a :: l'] := by
  rw [List.append_cons, parts_append _ h, parts_append_singleton, if_pos ha,
    List.modifyLast_concat]
  rfl

theorem map_modifyLast {β : Type} {f : α → β} {g : α → α} {g' : β → β}
    (h : ∀ a, f (g a) = g' (f a)) (l : List α) :
    (l.modifyLast g).map f = (l.map f).modifyLast g' := by
  rcases List.eq_nil_or_concat l with rfl | ⟨l, a, rfl⟩
  · rfl
  · rw [List.concat_eq_append, List.modifyLast_concat, List.map_append, List.map_append,
      List.map_singleton, List.map_singleton, List.modifyLast_concat, h]

end Parts

variable {F : Type}

/-! ### Sessions -/

/-- The sessions of some turns, from the order that started each of them. -/
def sessions (ts : List (Turn F)) : List (List (Turn F)) :=
  parts Turn.isStart ts

theorem sessions_append_singleton (ts : List (Turn F)) (t : Turn F) :
    sessions (ts ++ [t]) =
      if t.isStart then sessions ts ++ [[t]] else (sessions ts).modifyLast (· ++ [t]) :=
  parts_append_singleton ts t

/-- The last session is the current one. -/
theorem sessions_eq (ts : List (Turn F)) :
    sessions ts = [] ∨ ∃ past, sessions ts = past ++ [sessionTurns ts] := by
  induction ts using List.reverseRecOn with
  | nil => exact .inl rfl
  | append_singleton ts t ih =>
    rw [sessions_append_singleton, sessionTurns_append_singleton]
    split
    · exact .inr ⟨sessions ts, rfl⟩
    · rcases ih with hnone | ⟨past, hpast⟩
      · exact .inl (by rw [hnone]; rfl)
      · exact .inr ⟨past, by rw [hpast, List.modifyLast_concat]⟩

/-- Every session was once the current one. -/
theorem exists_prefix_of_mem_sessions {ts session : List (Turn F)} (h : session ∈ sessions ts) :
    ∃ us, us <+: ts ∧ sessionTurns us = session := by
  induction ts using List.reverseRecOn with
  | nil => simp [sessions, parts] at h
  | append_singleton ts t ih =>
    have hpast (hmem : session ∈ sessions ts) : ∃ us, us <+: ts ++ [t] ∧
        sessionTurns us = session := by
      obtain ⟨us, hus, heq⟩ := ih hmem
      exact ⟨us, hus.trans (List.prefix_append _ _), heq⟩
    have hlast (heq : session = sessionTurns (ts ++ [t])) : ∃ us, us <+: ts ++ [t] ∧
        sessionTurns us = session :=
      ⟨ts ++ [t], List.prefix_rfl, heq.symm⟩
    rw [sessions_append_singleton] at h
    rw [sessionTurns_append_singleton] at hlast
    split at h
    · next hstart =>
      rw [if_pos hstart] at hlast
      exact (List.mem_append.mp h).elim hpast fun hmem => hlast (List.mem_singleton.mp hmem)
    · next hstart =>
      rw [if_neg hstart] at hlast
      rcases sessions_eq ts with hnone | ⟨past, heq⟩
      · rw [hnone] at h
        cases h
      · rw [heq, List.modifyLast_concat] at h
        refine (List.mem_append.mp h).elim (fun hmem => hpast ?_)
          fun hmem => hlast (List.mem_singleton.mp hmem)
        rw [heq]
        exact List.mem_append_left _ hmem

/-! ### Pages -/

/-- The pages of the transcript that some calls fill. -/
def pages (cs : List Call) : List (List Cue) :=
  parts Cue.isTurnPage (transcript cs)

/-- A page is begun only in front of what is said in a turn that starts a session. -/
theorem Narration.turnsPage {h : Happening F} {s s' : PlayState} {told : List Cue}
    (narration : Narration h s s' told) :
    if h.isStart then ∃ tail, told = .turnPage :: tail ∧ ∀ q ∈ tail, q.isTurnPage = false
    else ∀ q ∈ told, q.isTurnPage = false := by
  cases narration with
  | start tail isStart ends =>
    rw [if_pos isStart]
    exact ⟨tail, rfl, ends.not_turnsPage⟩
  | remark _ isStart remarks =>
    rw [if_neg (by simp [isStart])]
    exact fun q hq => Cue.not_turnsPage_of_isRemark (remarks q hq)
  | say text isStart =>
    rw [if_neg (by simp [isStart])]
    simp [Cue.isTurnPage]
  | offer number c isStart =>
    rw [if_neg (by simp [isStart])]
    simp [Cue.isTurnPage]
  | close remarks tail isStart _ quiet ends =>
    rw [if_neg (by simp [isStart])]
    intro q hq
    rcases List.mem_append.mp hq with hq | hq
    · exact Cue.not_turnsPage_of_isRemark (quiet q hq)
    · exact ends.not_turnsPage q hq

/-- Nothing is said before the first session. -/
theorem Narration.eq_nil {h : Happening F} {s s' : PlayState} {told : List Cue}
    (narration : Narration h s s' told) (hstart : h.isStart = false) (hidle : s.phase = .idle) :
    told = [] := by
  have hrunning : s.phase ≠ .running := by rw [hidle]; exact Phase.noConfusion
  cases narration with
  | start _ isStart => simp [isStart] at hstart
  | remark _ _ _ running => exact Classical.not_not.mp fun hne => hrunning (running hne)
  | say _ _ running => exact absurd running hrunning
  | offer _ _ _ running => exact absurd running hrunning
  | close _ _ _ running => exact absurd running hrunning

/-! ### Plays -/

variable [Frontend F]

/-- Every session of a play was the current one behind some of the things that happened. -/
theorem exists_run_of_mem_sessions {d : Director (Recorder F)} {hs : List (Happening F)}
    {session : List (Turn F)} (h : session ∈ sessions (d.turns hs)) :
    ∃ hs', sessionTurns (d.turns hs') = session := by
  obtain ⟨us, ⟨rest, hus⟩, rfl⟩ := exists_prefix_of_mem_sessions h
  have hhs : us.map Turn.happening ++ rest.map Turn.happening = hs := by
    rw [← List.map_append, hus, Director.map_happening_turns]
  refine ⟨us.map Turn.happening, ?_⟩
  have hlength : (d.turns (us.map Turn.happening)).length = us.length := by
    rw [← List.length_map Turn.happening, Director.map_happening_turns, List.length_map]
  rw [← hhs, Director.turns_append] at hus
  rw [← (List.append_inj hus hlength.symm).1]

/-- The sessions of a play are numbered without a gap. -/
theorem length_sessions_run (front : F) (hs : List (Happening F)) :
    (sessions ((Director.opening front).turns hs)).length =
      ((Director.opening front).run hs).state.session := by
  induction hs using List.reverseRecOn with
  | nil => rfl
  | append_singleton hs h ih =>
    have hsession := (((Director.opening front).run hs).turn_step h).session_eq
    have hisStart : (((Director.opening front).run hs).turn h).isStart = h.isStart := rfl
    rw [Director.turns_append, Director.turns_singleton, sessions_append_singleton,
      Director.run_append, Director.run_singleton, hsession, hisStart]
    split
    · rw [List.length_append, ih]
      rfl
    · rw [← ih]
      rcases sessions_eq ((Director.opening front).turns hs) with hnone | ⟨past, hpast⟩
      · rw [hnone]
        rfl
      · rw [hpast, List.modifyLast_concat, List.length_append, List.length_append]
        rfl

/-- A turn that starts a session begins a page, and any other one goes on with the last page. -/
theorem pages_happen (d : Director (Recorder F)) (h : Happening F) :
    pages (d.happen h).1.calls =
      if h.isStart then pages d.calls ++ [transcript (d.turn h).calls]
      else (pages d.calls).modifyLast (· ++ transcript (d.turn h).calls) := by
  have hturns := (d.turn_step h).narration.turnsPage
  rw [d.calls_happen, pages, transcript_append]
  split
  · next hstart =>
    rw [if_pos hstart] at hturns
    obtain ⟨tail, hcues, htail⟩ := hturns
    rw [hcues]
    exact parts_append_cons _ rfl htail
  · next hstart =>
    rw [if_neg hstart] at hturns
    exact parts_append _ hturns

/-- Every session fills one page. -/
theorem pages_run (front : F) (hs : List (Happening F)) :
    pages ((Director.opening front).run hs).calls =
      (sessions ((Director.opening front).turns hs)).map page := by
  induction hs using List.reverseRecOn with
  | nil => rfl
  | append_singleton hs h ih =>
    let d := (Director.opening front).run hs
    have hisStart : (d.turn h).isStart = h.isStart := rfl
    have hmodify (xs : List (List (Turn F))) : (xs.modifyLast (· ++ [d.turn h])).map page =
        (xs.map page).modifyLast (· ++ transcript (d.turn h).calls) :=
      map_modifyLast (page_append_singleton · (d.turn h)) xs
    rw [Director.turns_append, Director.turns_singleton, sessions_append_singleton,
      Director.run_append, Director.run_singleton, pages_happen, ih, hisStart]
    split
    · rw [List.map_append, List.map_singleton, page, callsOf_singleton]
    · exact (hmodify _).symm

/-- Nothing stands outside the pages. -/
theorem flatten_pages_run (front : F) (hs : List (Happening F)) :
    (pages ((Director.opening front).run hs).calls).flatten =
      transcript ((Director.opening front).run hs).calls := by
  induction hs using List.reverseRecOn with
  | nil => rfl
  | append_singleton hs h ih =>
    let d := (Director.opening front).run hs
    rw [Director.run_append, Director.run_singleton, pages_happen, d.calls_happen,
      transcript_append, ← ih]
    split
    · rw [List.flatten_append, List.flatten_singleton]
    · next hstart =>
      -- without a page no session has begun, and then nothing is said
      rcases List.eq_nil_or_concat (pages d.calls) with hnone | ⟨past, last, hpast⟩
      · have hsession : d.state.session = 0 := by
          rw [← length_sessions_run, ← List.length_map page, ← pages_run]
          exact List.length_eq_zero_iff.mpr hnone
        have hidle := (Director.phase_eq_idle_iff_session front hs).mpr hsession
        have hsaid : transcript (d.turn h).calls = [] :=
          (d.turn_step h).narration.eq_nil (by simpa using hstart) hidle
        rw [hsaid, hnone]
        rfl
      · rw [hpast, List.concat_eq_append, List.modifyLast_concat, List.flatten_append,
          List.flatten_append, List.flatten_singleton, List.flatten_singleton, List.append_assoc]

/-! ### The order of a page -/

/-- How the page of a session is laid out. -/
structure InOrder (session : List (Turn F)) : Prop where
  /-- Nothing follows the end of a page. -/
  ends : ∀ before q after, page session = before ++ q :: after → q.ending? ≠ none → after = []
  /-- The texts are animated from some moment on. -/
  texts : ∃ still animated, (page session).filterMap Cue.textFlag? =
    List.replicate still false ++ List.replicate animated true
  /-- No choice is shown before the log that the session began with has been submitted. -/
  awaits : ∀ before t c, CallAt session before t c → c.isOffer = true →
    openingLog session <+: submissions before
  /-- Each choice that is shown belongs to one of the decision points. -/
  points : (shownPoints session).flatten = (page session).filterMap Cue.offerFlag?
  /-- All points are animated, but for the first one if the session began with choices. -/
  animated : Animated (openingLog session) (shownPoints session)

/-- The page of every session is in order. -/
theorem inOrder_of_mem_sessions {front : F} {hs : List (Happening F)} {session : List (Turn F)}
    (h : session ∈ sessions ((Director.opening front).turns hs)) : InOrder session := by
  obtain ⟨hs', rfl⟩ := exists_run_of_mem_sessions h
  obtain ⟨ends, ⟨still, animated, hflags, -⟩, points⟩ := pagePlan_run front hs'
  exact {
    ends := fun before q after heq hq => ends.eq_nil_of_ending heq hq
    texts := ⟨still, animated, hflags⟩
    awaits := (onPath_run front hs').offers
    points := flatten_shownPoints _
    animated := points.animated_addPoint }

/-- **The transcript is in order.** In every play, each session fills one page of the transcript,
and nothing stands outside the pages. Nothing follows the end of a page. Its texts are animated from
some moment on. No choice is shown before the log that the session began with has been submitted.
If that log is empty, the choices of all decision points are animated, and otherwise those of all
but the first one. The last page says that the story ended, or failed, just if the current session
is completed, or failed, and it says no end as long as the session runs. -/
theorem transcript_is_in_order (front : F) (hs : List (Happening F)) :
    let d := (Director.opening front).run hs
    let ts := (Director.opening front).turns hs
    pages d.calls = (sessions ts).map page ∧
      (pages d.calls).flatten = transcript d.calls ∧
      (pages d.calls).length = d.state.session ∧
      (∀ session ∈ sessions ts, InOrder session) ∧
      ∀ last, (pages d.calls).getLast? = some last →
        ((∃ text, .sayEnd text .finished ∈ last) ↔ d.state.phase = .completed) ∧
        ((∃ text, .sayEnd text .failed ∈ last) ↔ d.state.phase = .failed) ∧
        ((∀ q ∈ last, q.ending? = none) ↔ d.state.phase = .running) := by
  intro d ts
  have hpages : pages d.calls = (sessions ts).map page := pages_run front hs
  have hlength : (pages d.calls).length = d.state.session := by
    rw [hpages, List.length_map, length_sessions_run]
  refine ⟨hpages, flatten_pages_run front hs, hlength, fun _ h => inOrder_of_mem_sessions h, ?_⟩
  intro last hlast
  have hbegun : d.state.phase ≠ .idle := by
    refine (Director.phase_eq_idle_iff_session front hs).not.mpr fun hnone => ?_
    rw [List.length_eq_zero_iff.mp (hlength.trans hnone)] at hlast
    cases hlast
  have hcurrent : last = page (sessionTurns ts) := by
    rw [hpages] at hlast
    rcases sessions_eq ts with hnone | ⟨past, hpast⟩
    · rw [hnone] at hlast
      cases hlast
    · rw [hpast, List.map_append, List.map_singleton, List.getLast?_concat] at hlast
      exact (Option.some.inj hlast).symm
  rw [hcurrent]
  have ends := (pagePlan_run front hs).ends
  exact ⟨ends.mem_iff .finished, ends.mem_iff .failed, ends.unended_iff hbegun⟩

end Playthrough
