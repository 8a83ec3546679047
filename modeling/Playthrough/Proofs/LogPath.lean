import Playthrough.Proofs.Turn

/-!
# The choice log is the path of the session

The choices that a session submits come from two sources. As long as the choice log has not been
gone through, they are taken from it without being shown; afterwards they are selected, and added to
the log. So the log always begins with what the session has submitted, and the cursor tells how much
of it that is.

A turn touches the log in few ways, which `Progress` lists. What every play keeps, `OnPath`, is
proved once for each of them.

## Main definitions

* `submissions` — the choices submitted in some calls.
* `ChoiceLog.Tracks` — the choices submitted so far are those that the cursor is past.
* `CallAt` — a call that is made in a turn, and the calls of the session before it.
* `Progress` — what a turn does to the log, and the calls that go with it.

## Main results

* `Step.progress` — every turn makes one of these kinds of progress.
* `log_is_path_of_session` — the log is the path of the session, and it is gone through first.
-/

namespace Playthrough

variable {F : Type}

/-! ### Calls about choices -/

namespace Call

/-- The choice that a call submits. -/
def submission? : Call → Option Nat
  | .send (.continueWith n _) => some n
  | _ => none

/-- Whether a call shows a choice. -/
def isOffer : Call → Bool
  | .cue (.offer _ _ _) => true
  | _ => false

/-- Whether a call neither submits nor shows a choice, nor draws a line through the transcript. -/
def isQuiet : Call → Bool
  | .send (.continueWith _ _) => false
  | .cue (.offer _ _ _) => false
  | .cue .rule => false
  | _ => true

theorem submission?_of_isQuiet {c : Call} (h : c.isQuiet) : c.submission? = none := by
  unfold isQuiet at h
  split at h <;> simp_all [submission?]

theorem not_isOffer_of_isQuiet {c : Call} (h : c.isQuiet) : c.isOffer = false := by
  unfold isQuiet at h
  split at h <;> simp_all [isOffer]

theorem not_isQuiet_of_submission? {c : Call} {n : Nat} (h : c.submission? = some n) :
    c.isQuiet = false := by
  by_contra hquiet
  rw [submission?_of_isQuiet (by simpa using hquiet)] at h
  contradiction

theorem not_isQuiet_of_isOffer {c : Call} (h : c.isOffer = true) : c.isQuiet = false := by
  by_contra hquiet
  rw [not_isOffer_of_isQuiet (by simpa using hquiet)] at h
  contradiction

end Call

/-- The choices submitted in some calls, in their order. -/
def submissions (cs : List Call) : List Nat :=
  cs.filterMap Call.submission?

/-- Whether the last of some calls draws a line through the transcript. -/
def EndsWithRule (cs : List Call) : Prop :=
  cs.getLast? = some (.cue .rule)

/-- A call that is made in a turn, and the calls of all turns before it. -/
def CallAt (ts : List (Turn F)) (before : List Call) (t : Turn F) (c : Call) : Prop :=
  ∃ earlier later pre post, ts = earlier ++ t :: later ∧ t.calls = pre ++ c :: post ∧
    before = callsOf earlier ++ pre

@[simp] theorem submissions_nil : submissions [] = [] := rfl

@[simp] theorem submissions_cue (q : Cue) (cs : List Call) :
    submissions (.cue q :: cs) = submissions cs := rfl

@[simp] theorem submissions_continueWith (n : Nat) (session : SessionId) (cs : List Call) :
    submissions (.send (.continueWith n session) :: cs) = n :: submissions cs := rfl

@[simp] theorem submissions_append (cs cs' : List Call) :
    submissions (cs ++ cs') = submissions cs ++ submissions cs' :=
  List.filterMap_append

theorem submissions_eq_nil {cs : List Call} (h : ∀ c ∈ cs, c.isQuiet) : submissions cs = [] :=
  List.filterMap_eq_nil_iff.mpr fun c hc => Call.submission?_of_isQuiet (h c hc)

theorem not_endsWithRule_of_quiet {cs : List Call} (h : ∀ c ∈ cs, c.isQuiet) :
    ¬ EndsWithRule cs := by
  intro hlast
  have hmem : Call.cue .rule ∈ cs := List.mem_of_getLast? hlast
  exact absurd (h _ hmem) (by simp [Call.isQuiet])

theorem not_endsWithRule_append {cs cs' : List Call} (h : ¬ EndsWithRule cs)
    (h' : ¬ EndsWithRule cs') : ¬ EndsWithRule (cs ++ cs') := by
  unfold EndsWithRule at *
  rw [List.getLast?_append]
  cases hlast : cs'.getLast? with
  | none => simpa using h
  | some c => simpa [hlast] using h'

theorem eq_of_singleton_eq_append_cons {x c : Call} {pre post : List Call}
    (h : [x] = pre ++ c :: post) : pre = [] ∧ c = x := by
  rcases List.singleton_eq_append_iff.mp h with ⟨rfl, hlast⟩ | ⟨-, hnil⟩
  · exact ⟨rfl, (List.cons.inj hlast).1⟩
  · contradiction

/-- If only quiet calls follow, a call that is not quiet is made before them. -/
theorem exists_of_append_quiet {cs tail pre post : List Call} {c : Call}
    (hquiet : ∀ c ∈ tail, c.isQuiet) (hc : c.isQuiet = false) (h : cs ++ tail = pre ++ c :: post) :
    ∃ post', cs = pre ++ c :: post' := by
  have hnot : c ∉ tail := fun hmem => by simp [hquiet c hmem] at hc
  rcases List.append_eq_append_iff.mp h with ⟨rest, -, htail⟩ | ⟨rest, hcs, hpost⟩
  · exact absurd (htail ▸ List.mem_append_right rest List.mem_cons_self) hnot
  · cases rest with
    | nil =>
      have htail : c :: post = tail := hpost
      exact absurd (htail ▸ List.mem_cons_self) hnot
    | cons x rest =>
      obtain ⟨rfl, -⟩ := List.cons.inj hpost
      exact ⟨rest, hcs⟩

/-- A call of some turns and one more turn is a call of the former or of the latter. -/
theorem callAt_append_singleton {ts : List (Turn F)} {t u : Turn F} {before : List Call}
    {c : Call} (h : CallAt (ts ++ [t]) before u c) :
    CallAt ts before u c ∨
      u = t ∧ ∃ pre post, t.calls = pre ++ c :: post ∧ before = callsOf ts ++ pre := by
  obtain ⟨earlier, later, pre, post, hts, hcalls, hbefore⟩ := h
  rcases List.eq_nil_or_concat later with rfl | ⟨later, x, rfl⟩
  · obtain ⟨rfl, hlast⟩ := List.append_inj' hts rfl
    obtain rfl : t = u := List.singleton_inj.mp hlast
    exact .inr ⟨rfl, pre, post, hcalls, hbefore⟩
  · rw [List.concat_eq_append, ← List.cons_append, ← List.append_assoc] at hts
    obtain ⟨rfl, -⟩ := List.append_inj' hts rfl
    exact .inl ⟨earlier, later, pre, post, rfl, hcalls, hbefore⟩

/-! ### The log and what was submitted -/

namespace ChoiceLog

variable {log : ChoiceLog} {sent : List Nat} {n : Nat}

/-- Some choices are those that the log was gone through in the current session: all of them if the
story is live, and otherwise those before the cursor, which is not beyond the end. -/
def Tracks (log : ChoiceLog) (sent : List Nat) : Prop :=
  match log.cursor with
  | .live => sent = log.choices
  | .next i => i ≤ log.choices.length ∧ sent = log.choices.take i

theorem tracks_of_live (h : log.cursor = .live) : log.Tracks sent ↔ sent = log.choices := by
  rw [Tracks, h]

theorem tracks_of_next {i : Nat} (h : log.cursor = .next i) :
    log.Tracks sent ↔ i ≤ log.choices.length ∧ sent = log.choices.take i := by
  rw [Tracks, h]

theorem tracks_rewound (log : ChoiceLog) : log.rewound.Tracks [] := by
  by_cases hempty : log.choices = []
  · exact (tracks_of_live (by simp [rewound, hempty])).mpr hempty.symm
  · exact (tracks_of_next (i := 0) (by simp [rewound, hempty])).mpr ⟨by omega, rfl⟩

/-- A choice is due at a position within the log. -/
theorem due_eq_some_iff :
    log.due = some n ↔ ∃ i, log.cursor = .next i ∧ log.choices[i]? = some n := by
  unfold due
  cases log.cursor <;> simp

theorem takeDue_eq (h : log.due = some n) :
    ∃ i, log.cursor = .next i ∧ log.choices[i]? = some n ∧
      log.takeDue = ({ log with cursor := .next (i + 1) }, some n) := by
  obtain ⟨i, hcursor, hn⟩ := due_eq_some_iff.mp h
  exact ⟨i, hcursor, hn, by simp [takeDue, hcursor, h]⟩

theorem takeDue_snd (log : ChoiceLog) : log.takeDue.2 = log.due := by
  unfold takeDue due
  cases hcursor : log.cursor with
  | live => rfl
  | next i => cases hn : log.choices[i]? <;> simp [hn]

theorem Tracks.takeDue (h : log.Tracks sent) (hdue : log.due = some n) :
    log.takeDue.1.Tracks (sent ++ [n]) := by
  obtain ⟨i, hcursor, hn, htake⟩ := takeDue_eq hdue
  obtain ⟨-, rfl⟩ := (tracks_of_next hcursor).mp h
  obtain ⟨hlt, rfl⟩ := List.getElem?_eq_some_iff.mp hn
  rw [htake]
  show Tracks { log with cursor := .next (i + 1) } _
  exact (tracks_of_next rfl).mpr ⟨hlt, List.take_append_getElem hlt⟩

/-- A log without a choice that is due goes live, if it is not live already. -/
theorem Tracks.cursor_goLive (h : log.Tracks sent) (hdue : log.due = none) :
    log.goLive.1.cursor = .live := by
  cases hcursor : log.cursor with
  | live => simp [goLive, isCaughtUp, hcursor]
  | next i =>
    obtain ⟨hle, -⟩ := (tracks_of_next hcursor).mp h
    have hge : log.choices.length ≤ i := by simpa [due, hcursor] using hdue
    simp [goLive, isCaughtUp, hcursor, Nat.le_antisymm hle hge]

theorem Tracks.goLive (h : log.Tracks sent) (hdue : log.due = none) :
    log.goLive.1.Tracks sent := by
  refine (tracks_of_live (h.cursor_goLive hdue)).mpr ?_
  rw [choices_goLive]
  cases hcursor : log.cursor with
  | live => exact (tracks_of_live hcursor).mp h
  | next i =>
    obtain ⟨-, rfl⟩ := (tracks_of_next hcursor).mp h
    exact List.take_of_length_le (by simpa [due, hcursor] using hdue)

theorem add_of_live (h : log.cursor = .live) :
    (log.add n).1 = { log with choices := log.choices ++ [n] } := by
  simp [add, isReplaying, h]

theorem Tracks.add (h : log.Tracks sent) (hlive : log.cursor = .live) :
    (log.add n).1.Tracks (sent ++ [n]) := by
  rw [add_of_live hlive, (tracks_of_live hlive).mp h]
  refine (tracks_of_live ?_).mpr rfl
  exact hlive

end ChoiceLog

/-! ### What a turn does to the log -/

/-- What a turn may do to the log and the open decision point, and the calls that go with it. -/
inductive Progress (h : Happening F) (s s' : PlayState) (cs : List Call) : Prop where
  /-- A session is started. -/
  | start (isStart : h.isStart) (calls : ∀ c ∈ cs, c.isQuiet) (log : s'.log.Tracks [])
      (point : s'.point = none)
  /-- The log stays as it is, and no decision point is opened. -/
  | idle (isStart : h.isStart = false) (calls : ∀ c ∈ cs, c.isQuiet) (log : s'.log = s.log)
      (point : s'.point = s.point ∨ s'.point = none)
  /-- A choice is offered at a point that is answered from the log, and not shown. -/
  | absorb (isStart : h.isStart = false) (calls : cs = []) (log : s'.log = s.log)
      (opened : (Director.openPoint s).2.replayed = true)
      (point : ∃ p, s'.point = some p ∧ p.replayed = true)
  /-- A choice is shown. -/
  | offer (c : Choice) (animated : Bool) (isStart : h.isStart = false)
      (calls : cs = [.cue (.offer s.session c animated)])
      (opened : (Director.openPoint s).2.replayed = false)
      (log : s'.log = (Director.openPoint s).1.log)
      (point : ∃ p, s'.point = some p ∧ p.replayed = false)
  /-- The choice that is due is submitted. -/
  | replay (n : Nat) (tail : List Call) (isStart : h.isStart = false) (isReply : h.isReply)
      (due : s.log.due = some n)
      (calls : cs = .cue .scrollDown :: .cue .rule :: .send (.continueWith n s.session) :: tail)
      (quiet : ∀ c ∈ tail, c.isQuiet) (log : s'.log = s.log.takeDue.1) (point : s'.point = none)
  /-- A choice is selected and submitted. -/
  | select (n : Nat) (tail : List Call) (isStart : h.isStart = false)
      (isSelection : h.isSelection)
      (shown : ∃ p, s.point = some p ∧ p.replayed = false)
      (calls : cs = .send (.continueWith n s.session) :: tail)
      (quiet : ∀ c ∈ tail, c.isQuiet) (log : s'.log = (s.log.add n).1) (point : s'.point = none)

/-- The start of a session is progress of the first kind only. -/
theorem Progress.of_isStart {h : Happening F} {s s' : PlayState} {cs : List Call}
    (progress : Progress h s s' cs) (hstart : h.isStart = true) :
    (∀ c ∈ cs, c.isQuiet) ∧ s'.log.Tracks [] ∧ s'.point = none := by
  cases progress with
  | start _ calls log point => exact ⟨calls, log, point⟩
  | idle isStart => simp [hstart] at isStart
  | absorb isStart => simp [hstart] at isStart
  | offer _ _ isStart => simp [hstart] at isStart
  | replay _ _ isStart => simp [hstart] at isStart
  | select _ _ isStart => simp [hstart] at isStart

theorem IssueDisplay.isQuiet_of_mem_updateCalls {old new : List Marker} {l : IssueList}
    {left : Float} {c : Call} (h : c ∈ updateCalls old l new left) : c.isQuiet := by
  simp only [updateCalls, List.mem_append, List.mem_map, List.mem_cons, List.not_mem_nil,
    or_false] at h
  rcases h with (((⟨m, -, rfl⟩ | rfl) | ⟨p, -, rfl⟩) | rfl | rfl) | h
  · rfl
  · rfl
  · rfl
  · rfl
  · unfold tallyCue
    split <;> rfl
  · split at h
    · simp at h
    · obtain rfl := List.mem_singleton.mp h
      rfl

namespace Director

variable [Frontend F]

theorem isQuiet_of_mem_openingCalls {s : PlayState} {v : IssueDisplay} {c : Call}
    (h : c ∈ openingCalls s v) : c.isQuiet := by
  simp only [openingCalls, IssueDisplay.clearCalls, List.mem_append, List.mem_cons, List.mem_map,
    List.not_mem_nil, or_false] at h
  rcases h with h | rfl | ⟨m, -, rfl⟩ | rfl | rfl | rfl
  · rcases stopCalls_cases s with hs | hs <;> rw [hs] at h
    · exact absurd h List.not_mem_nil
    · obtain rfl := List.mem_singleton.mp h
      rfl
  all_goals rfl

theorem isQuiet_of_mem_failureCalls {x : Diagnostic} {c : Call} (h : c ∈ failureCalls x) :
    c.isQuiet := by
  rcases failureCalls_cases x with hx | hx <;> rw [hx] at h
  · exact absurd h List.not_mem_nil
  · obtain rfl := List.mem_singleton.mp h
    rfl

theorem Sequel.isQuiet {s s' : PlayState} {tail : List Call} (h : Sequel s s' tail) :
    ∀ c ∈ tail, c.isQuiet := by
  cases h with
  | sent => simp
  | lost e => simp [Call.isQuiet]

end Director

/-- Every step makes progress of one of these kinds. -/
theorem Step.progress {h : Happening F} {s s' : PlayState} {v v' : IssueDisplay} {cs : List Call}
    (step : Step h s v cs s' v') : Progress h s s' cs := by
  cases step with
  | still isStart unheard => exact .idle isStart (by simp) rfl (.inl rfl)
  | start log content isStart sequel =>
    refine .start isStart (fun c hc => ?_) ?_ (sequel.point_eq rfl)
    · rcases List.mem_append.mp hc with hc | hc
      · exact Director.isQuiet_of_mem_openingCalls hc
      · rcases List.mem_cons.mp hc with rfl | hc
        · rfl
        · exact sequel.isQuiet c hc
    · rw [sequel.log_eq]
      exact ChoiceLog.tracks_rewound _
  | select n p selected running point shown offered sequel =>
    exact .select n _ (by rw [selected]; rfl) (by rw [selected]; rfl) ⟨p, point, shown⟩ rfl
      sequel.isQuiet sequel.log_eq (sequel.point_eq rfl)
  | visit asked =>
    refine .idle (by rw [asked]; rfl) (fun c hc => ?_) rfl (.inl rfl)
    obtain ⟨x, -, rfl⟩ := Option.map_eq_some_iff.mp (Option.mem_toList.mp hc)
    rfl
  | centre left asked => exact .idle (by rw [asked]; rfl) (by simp [Call.isQuiet]) rfl (.inl rfl)
  | say text heard =>
    exact .idle heard.isStart_eq (by simp [Call.isQuiet]) rfl (.inl rfl)
  | repeated x heard known =>
    exact .idle heard.isStart_eq (fun c => Director.isQuiet_of_mem_failureCalls) rfl (.inl rfl)
  | reported x issues new left heard unknown added length =>
    refine .idle heard.isStart_eq (fun c hc => ?_) rfl (.inl rfl)
    rcases List.mem_append.mp hc with hc | hc
    · exact Director.isQuiet_of_mem_failureCalls hc
    · exact IssueDisplay.isQuiet_of_mem_updateCalls hc
  | absorb c heard replayed =>
    exact .absorb heard.isStart_eq rfl rfl replayed ⟨_, rfl, replayed⟩
  | offer c heard shown => exact .offer c _ heard.isStart_eq rfl shown rfl ⟨_, rfl, shown⟩
  | rest heard noneDue => exact .idle heard.isStart_eq (by simp [Call.isQuiet]) rfl (.inl rfl)
  | replay n heard due sequel =>
    refine .replay n _ heard.isStart_eq (by rw [heard.1]; rfl) ?_ rfl sequel.isQuiet sequel.log_eq
      (sequel.point_eq rfl)
    rw [← ChoiceLog.takeDue_snd, Director.takeDue_of_replayedChoice due]
  | conclude phase text termination heard final =>
    refine .idle ?_ (by simp [Call.isQuiet]) rfl (.inr rfl)
    rcases heard with heard | heard <;> exact heard.isStart_eq

/-! ### What every play keeps -/

/-- An open decision point that is answered from the log has a choice that is due, and one that is
shown belongs to a live story. -/
def PlayState.PointFits (s : PlayState) : Prop :=
  ∀ p, s.point = some p →
    if p.replayed then s.log.due.isSome = true else s.log.cursor = .live

namespace PlayState.PointFits

variable {s : PlayState}

/-- A point that is answered from the log is only opened or kept open if a choice is due. -/
theorem due_isSome (h : s.PointFits) (hopened : (Director.openPoint s).2.replayed = true) :
    s.log.due.isSome = true := by
  cases hpoint : s.point with
  | some p =>
    have hp := h p hpoint
    rw [Director.openPoint_of_some hpoint] at hopened
    have hreplayed : p.replayed = true := hopened
    simpa [hreplayed] using hp
  | none =>
    obtain ⟨p, hopen, -, hreplayed⟩ := Director.openPoint_of_none hpoint
    rw [hopen] at hopened
    exact hreplayed.symm.trans hopened

/-- When a choice is shown, the story is live from then on. -/
theorem log_openPoint {sent : List Nat} (h : s.PointFits) (htracks : s.log.Tracks sent)
    (hopened : (Director.openPoint s).2.replayed = false) :
    (Director.openPoint s).1.log.cursor = .live ∧ (Director.openPoint s).1.log.Tracks sent ∧
      (Director.openPoint s).1.log.choices = s.log.choices := by
  cases hpoint : s.point with
  | some p =>
    have hp := h p hpoint
    rw [Director.openPoint_of_some hpoint] at hopened ⊢
    have hshown : p.replayed = false := hopened
    simp only [hshown, Bool.false_eq_true, if_false] at hp
    exact ⟨hp, htracks, rfl⟩
  | none =>
    obtain ⟨p, hopen, -, hreplayed⟩ := Director.openPoint_of_none hpoint
    rw [hopen] at hopened ⊢
    have hdue : s.log.due = none := by
      have hnot : s.log.due.isSome = false := hreplayed.symm.trans hopened
      simpa using hnot
    simp only [hdue, Option.isSome_none, Bool.false_eq_true, if_false]
    exact ⟨htracks.cursor_goLive hdue, htracks.goLive hdue, s.log.choices_goLive⟩

end PlayState.PointFits

/-- A submission of the log: a reply led to it, it is among the first choices of the session, as
many as the log `L` had, and behind exactly one line through the transcript. -/
def Replayed (L : List Nat) (before : List Call) (t : Turn F) : Prop :=
  t.isReply = true ∧ (submissions before).length < L.length ∧
    ∃ earlier, before = earlier ++ [.cue .rule] ∧ ¬ EndsWithRule earlier

/-- A submission of a selected choice: it comes after the choices of the log `L`, and not behind a
line through the transcript. -/
def Selected (L : List Nat) (before : List Call) (t : Turn F) : Prop :=
  t.isSelection = true ∧ L.length ≤ (submissions before).length ∧ ¬ EndsWithRule before

/-- What the turns of a session that began with the log `L` keep, with the state behind them. -/
structure OnPath (L : List Nat) (session : List (Turn F)) (s : PlayState) : Prop where
  tracks : s.log.Tracks (submissions (callsOf session))
  pointFits : s.PointFits
  /-- The log only grows, and not before it was gone through. -/
  grown : L <+: s.log.choices
  unchanged : s.log.cursor ≠ .live → s.log.choices = L
  noRule : ¬ EndsWithRule (callsOf session)
  offers : ∀ before t c, CallAt session before t c → c.isOffer = true → L <+: submissions before
  submitted : ∀ before t c n, CallAt session before t c → c.submission? = some n →
    Replayed L before t ∨ Selected L before t

namespace OnPath

variable {L : List Nat} {session : List (Turn F)} {t : Turn F} {s : PlayState}

/-- The first turn of a session. -/
theorem start (hcalls : ∀ c ∈ t.calls, c.isQuiet) (hlog : s.log.Tracks [])
    (hpoint : s.point = none) : OnPath s.log.choices [t] s where
  tracks := by simpa [submissions_eq_nil hcalls] using hlog
  pointFits := by simp [PlayState.PointFits, hpoint]
  grown := List.prefix_rfl
  unchanged _ := rfl
  noRule := by simpa using not_endsWithRule_of_quiet hcalls
  offers before u c hc hoffer := by
    rcases @callAt_append_singleton _ [] _ _ _ _ hc with hc | ⟨rfl, pre, post, heq, -⟩
    · obtain ⟨earlier, later, -, -, hnil, -⟩ := hc
      simp at hnil
    · have hquiet := hcalls c (by simp [heq])
      rw [Call.not_isOffer_of_isQuiet hquiet] at hoffer
      contradiction
  submitted before u c n hc hn := by
    rcases @callAt_append_singleton _ [] _ _ _ _ hc with hc | ⟨rfl, pre, post, heq, -⟩
    · obtain ⟨earlier, later, -, -, hnil, -⟩ := hc
      simp at hnil
    · have hquiet := hcalls c (by simp [heq])
      rw [Call.submission?_of_isQuiet hquiet] at hn
      contradiction

/-- What was kept is kept by a turn if it is by the calls that the turn makes. -/
theorem next_of_calls {s' : PlayState} (h : OnPath L session s)
    (htracks : s'.log.Tracks (submissions (callsOf session) ++ submissions t.calls))
    (hfits : s'.PointFits) (hgrown : L <+: s'.log.choices)
    (hunchanged : s'.log.cursor ≠ .live → s'.log.choices = L) (hrule : ¬ EndsWithRule t.calls)
    (hoffers : ∀ pre c post, t.calls = pre ++ c :: post → c.isOffer = true →
      L <+: submissions (callsOf session ++ pre))
    (hsubmitted : ∀ pre c post n, t.calls = pre ++ c :: post → c.submission? = some n →
      Replayed L (callsOf session ++ pre) t ∨ Selected L (callsOf session ++ pre) t) :
    OnPath L (session ++ [t]) s' where
  tracks := by rwa [callsOf_append, callsOf_singleton, submissions_append]
  pointFits := hfits
  grown := hgrown
  unchanged := hunchanged
  noRule := by
    rw [callsOf_append, callsOf_singleton]
    exact not_endsWithRule_append h.noRule hrule
  offers before u c hc hoffer := by
    rcases callAt_append_singleton hc with hc | ⟨rfl, pre, post, heq, rfl⟩
    · exact h.offers before u c hc hoffer
    · exact hoffers pre c post heq hoffer
  submitted before u c n hc hn := by
    rcases callAt_append_singleton hc with hc | ⟨rfl, pre, post, heq, rfl⟩
    · exact h.submitted before u c n hc hn
    · exact hsubmitted pre c post n heq hn

/-- A turn that makes only quiet calls keeps what was kept, if the log stays. -/
theorem next_of_quiet {s' : PlayState} (h : OnPath L session s) (hcalls : ∀ c ∈ t.calls, c.isQuiet)
    (hlog : s'.log = s.log) (hfits : s'.PointFits) : OnPath L (session ++ [t]) s' := by
  have hquiet {pre post : List Call} {c : Call} (heq : t.calls = pre ++ c :: post) : c.isQuiet :=
    hcalls c (by simp [heq])
  refine h.next_of_calls ?_ hfits (hlog ▸ h.grown) (hlog ▸ h.unchanged)
    (not_endsWithRule_of_quiet hcalls) (fun pre c post heq hoffer => ?_)
    (fun pre c post n heq hn => ?_)
  · rw [submissions_eq_nil hcalls, List.append_nil, hlog]
    exact h.tracks
  · simp [Call.not_isOffer_of_isQuiet (hquiet heq)] at hoffer
  · simp [Call.submission?_of_isQuiet (hquiet heq)] at hn

/-- A turn that shows a choice. -/
theorem next_of_offer {s' : PlayState} {c : Choice} {animated : Bool} {p : DecisionPoint}
    (h : OnPath L session s) (hcalls : t.calls = [.cue (.offer s.session c animated)])
    (hopened : (Director.openPoint s).2.replayed = false)
    (hlog : s'.log = (Director.openPoint s).1.log) (hpoint : s'.point = some p)
    (hshown : p.replayed = false) : OnPath L (session ++ [t]) s' := by
  obtain ⟨hlive, htracks, hchoices⟩ := h.pointFits.log_openPoint h.tracks hopened
  have hsent : submissions (callsOf session) = s.log.choices := by
    rw [← hchoices]
    exact (ChoiceLog.tracks_of_live hlive).mp htracks
  refine h.next_of_calls ?_ ?_ ?_ ?_ ?_ (fun pre a post heq _ => ?_)
    (fun pre a post n heq hn => ?_)
  · simpa [hcalls, hlog] using htracks
  · intro q hq
    obtain rfl : p = q := Option.some.inj (hpoint.symm.trans hq)
    simpa [hshown, hlog] using hlive
  · rw [hlog, hchoices]
    exact h.grown
  · intro hnot
    exact absurd (hlog ▸ hlive) hnot
  · simp [EndsWithRule, hcalls]
  · obtain ⟨rfl, -⟩ := eq_of_singleton_eq_append_cons (hcalls.symm.trans heq)
    rw [List.append_nil, hsent]
    exact h.grown
  · obtain ⟨-, rfl⟩ := eq_of_singleton_eq_append_cons (hcalls.symm.trans heq)
    contradiction

/-- A turn that submits the choice that is due. -/
theorem next_of_replay {s' : PlayState} {n : Nat} {tail : List Call} (h : OnPath L session s)
    (hreply : t.isReply = true) (hdue : s.log.due = some n)
    (hcalls : t.calls =
      .cue .scrollDown :: .cue .rule :: .send (.continueWith n s.session) :: tail)
    (hquiet : ∀ c ∈ tail, c.isQuiet) (hlog : s'.log = s.log.takeDue.1)
    (hpoint : s'.point = none) : OnPath L (session ++ [t]) s' := by
  let made : List Call := [.cue .scrollDown, .cue .rule, .send (.continueWith n s.session)]
  obtain ⟨i, hcursor, hn, htake⟩ := ChoiceLog.takeDue_eq hdue
  have hall : s.log.choices = L := h.unchanged (by simp [hcursor])
  obtain ⟨hlt, -⟩ := List.getElem?_eq_some_iff.mp hn
  have hsent : submissions (callsOf session) = s.log.choices.take i :=
    ((ChoiceLog.tracks_of_next hcursor).mp h.tracks).2
  have hcalls : t.calls = made ++ tail := hcalls
  have hchoices : s'.log.choices = s.log.choices := by rw [hlog, s.log.choices_takeDue]
  refine h.next_of_calls ?_ ?_ ?_ ?_ ?_ (fun pre a post heq hoffer => ?_)
    (fun pre a post m heq hm => ?_)
  · rw [hcalls, submissions_append, submissions_eq_nil hquiet, List.append_nil, hlog]
    exact h.tracks.takeDue hdue
  · simp [PlayState.PointFits, hpoint]
  · rw [hchoices]
    exact h.grown
  · rw [hchoices]
    exact fun _ => hall
  · rw [hcalls]
    exact not_endsWithRule_append (by simp [EndsWithRule, made]) (not_endsWithRule_of_quiet hquiet)
  · obtain ⟨post', hmade⟩ := exists_of_append_quiet hquiet (Call.not_isQuiet_of_isOffer hoffer)
      (hcalls.symm.trans heq)
    have hmem : a ∈ made := by simp [hmade]
    simp only [made, List.mem_cons, List.not_mem_nil, or_false] at hmem
    rcases hmem with rfl | rfl | rfl <;> contradiction
  · obtain ⟨post', hmade⟩ := exists_of_append_quiet hquiet (Call.not_isQuiet_of_submission? hm)
      (hcalls.symm.trans heq)
    -- the first two of the calls submit nothing
    obtain ⟨rfl, rfl⟩ : pre = [.cue .scrollDown, .cue .rule] ∧ m = n := by
      rcases pre with _ | ⟨_, _ | ⟨_, _ | ⟨_, pre⟩⟩⟩ <;>
        simp_all [made, Call.submission?]
    refine .inl ⟨hreply, ?_, callsOf session ++ [.cue .scrollDown], by simp, ?_⟩
    · rw [submissions_append, hsent, ← hall]
      simpa [Nat.min_eq_left (Nat.le_of_lt hlt)] using hlt
    · exact not_endsWithRule_append h.noRule (by simp [EndsWithRule])

/-- A turn in which a choice is selected. -/
theorem next_of_select {s' : PlayState} {n : Nat} {tail : List Call} {p : DecisionPoint}
    (h : OnPath L session s) (hselect : t.isSelection = true) (hopen : s.point = some p)
    (hshown : p.replayed = false)
    (hcalls : t.calls = .send (.continueWith n s.session) :: tail)
    (hquiet : ∀ c ∈ tail, c.isQuiet) (hlog : s'.log = (s.log.add n).1)
    (hpoint : s'.point = none) : OnPath L (session ++ [t]) s' := by
  let made : List Call := [.send (.continueWith n s.session)]
  have hlive : s.log.cursor = .live := by simpa [hshown] using h.pointFits p hopen
  have hsent : submissions (callsOf session) = s.log.choices :=
    (ChoiceLog.tracks_of_live hlive).mp h.tracks
  have hcalls : t.calls = made ++ tail := hcalls
  have hadd : s'.log = { s.log with choices := s.log.choices ++ [n] } := by
    rw [hlog, ChoiceLog.add_of_live hlive]
  refine h.next_of_calls ?_ ?_ ?_ ?_ ?_ (fun pre a post heq hoffer => ?_)
    (fun pre a post m heq hm => ?_)
  · rw [hcalls, submissions_append, submissions_eq_nil hquiet, List.append_nil, hlog]
    exact h.tracks.add hlive
  · simp [PlayState.PointFits, hpoint]
  · rw [hadd]
    exact h.grown.trans (List.prefix_append _ _)
  · intro hnot
    rw [hadd] at hnot
    exact absurd hlive hnot
  · rw [hcalls]
    exact not_endsWithRule_append (by simp [EndsWithRule, made]) (not_endsWithRule_of_quiet hquiet)
  · obtain ⟨post', hmade⟩ := exists_of_append_quiet hquiet (Call.not_isQuiet_of_isOffer hoffer)
      (hcalls.symm.trans heq)
    obtain ⟨-, rfl⟩ := eq_of_singleton_eq_append_cons hmade
    contradiction
  · obtain ⟨post', hmade⟩ := exists_of_append_quiet hquiet (Call.not_isQuiet_of_submission? hm)
      (hcalls.symm.trans heq)
    obtain ⟨rfl, -⟩ := eq_of_singleton_eq_append_cons hmade
    refine .inr ⟨hselect, ?_, ?_⟩
    · rw [List.append_nil, hsent]
      exact h.grown.length_le
    · rw [List.append_nil]
      exact h.noRule

/-- A turn that belongs to the current session. -/
theorem next {s' : PlayState} (h : OnPath L session s) (hstart : t.isStart = false)
    (hprogress : Progress t.happening s s' t.calls) : OnPath L (session ++ [t]) s' := by
  cases hprogress with
  | start isStart => simp [Turn.isStart, isStart] at hstart
  | idle _ calls log point =>
    refine h.next_of_quiet calls log ?_
    rcases point with point | point
    · simpa [PlayState.PointFits, point, log] using h.pointFits
    · simp [PlayState.PointFits, point]
  | absorb _ calls log opened point =>
    refine h.next_of_quiet (by simp [calls]) log ?_
    obtain ⟨p, hp, hreplayed⟩ := point
    intro q hq
    obtain rfl : p = q := Option.some.inj (hp.symm.trans hq)
    simpa [hreplayed, log] using h.pointFits.due_isSome opened
  | offer c animated _ calls opened log point =>
    obtain ⟨p, hp, hshown⟩ := point
    exact h.next_of_offer calls opened log hp hshown
  | replay n tail _ isReply due calls quiet log point =>
    exact h.next_of_replay isReply due calls quiet log point
  | select n tail _ isSelection shown calls quiet log point =>
    obtain ⟨p, hp, hshown⟩ := shown
    exact h.next_of_select isSelection hp hshown calls quiet log point

end OnPath

/-! ### Whole plays -/

/-- The log that a session began with, behind the turn that started it. -/
def openingLog : List (Turn F) → List Nat
  | [] => []
  | first :: _ => if first.isStart then first.after.log.choices else []

theorem openingLog_append_singleton (ts : List (Turn F)) {t : Turn F} (h : t.isStart = false) :
    openingLog (ts ++ [t]) = openingLog ts := by
  cases ts with
  | nil => simp [openingLog, h]
  | cons first rest => rfl

variable [Frontend F]

theorem onPath_run (front : F) (hs : List (Happening F)) :
    OnPath (openingLog (sessionTurns ((Director.opening front).turns hs)))
      (sessionTurns ((Director.opening front).turns hs))
      ((Director.opening front).run hs).state := by
  induction hs using List.reverseRecOn with
  | nil =>
    refine ⟨rfl, ?_, List.prefix_rfl, fun _ => rfl, ?_, ?_, ?_⟩
    · simp [PlayState.PointFits, Director.opening]
    · simp [EndsWithRule]
    · simp [CallAt]
    · simp [CallAt]
  | append_singleton hs h ih =>
    have hprogress := (((Director.opening front).run hs).turn_step h).progress
    rw [Director.turns_append, Director.turns_singleton, sessionTurns_append_singleton,
      Director.run_append, Director.run_singleton]
    by_cases hstart : (((Director.opening front).run hs).turn h).isStart
    · rw [if_pos hstart, openingLog, if_pos hstart]
      obtain ⟨calls, log, point⟩ := hprogress.of_isStart hstart
      exact .start calls log point
    · rw [if_neg hstart, openingLog_append_singleton _ (by simpa using hstart)]
      exact ih.next (by simpa using hstart) hprogress

/-- **The log is the path of the session.** In every play, the choices submitted in the current
session are those that the cursor of the log is past, which are all of them if the story is live.
They begin with the choices of the log that the session began with, as far as there are that many.
No choice is shown before all of these have been submitted. A submission is either one of these, to
which a reply led, behind exactly one line through the transcript; or it comes later, was selected,
and is not behind a line. -/
theorem log_is_path_of_session (front : F) (hs : List (Happening F)) :
    let session := sessionTurns ((Director.opening front).turns hs)
    let sent := submissions (callsOf session)
    let L := openingLog session
    ((Director.opening front).run hs).state.log.Tracks sent ∧
      (sent <+: L ∨ L <+: sent) ∧
      (∀ before t c, CallAt session before t c → c.isOffer = true → L <+: submissions before) ∧
      ∀ before t c n, CallAt session before t c → c.submission? = some n →
        Replayed L before t ∨ Selected L before t := by
  intro session sent L
  have h : OnPath L session ((Director.opening front).run hs).state := onPath_run front hs
  refine ⟨h.tracks, ?_, h.offers, h.submitted⟩
  cases hcursor : ((Director.opening front).run hs).state.log.cursor with
  | live =>
    have hsent : sent = _ := (ChoiceLog.tracks_of_live hcursor).mp h.tracks
    right
    rw [hsent]
    exact h.grown
  | next i =>
    have hsent : sent = _ := ((ChoiceLog.tracks_of_next hcursor).mp h.tracks).2
    left
    rw [hsent, h.unchanged (by simp [hcursor])]
    exact List.take_prefix i L

end Playthrough
