import Playthrough.Proofs.IssueSurfaces
import Playthrough.Proofs.LogPath

/-!
# The transcript of a session

What the story says is shown in the transcript, which gets a new page for every session. A page ends
at most once, when the session does: because the story came to its end or broke off, or because a
request was refused. The texts of a page are not animated as long as the log is being taken again,
and all later ones are. So are the choices, up to one exception: the first decision point that is
shown after the log was taken again appears at once.

A step adds to the transcript in few ways, which `Narration` lists.

## Main definitions

* `transcript` — the cues about the transcript among some calls.
* `Ends` — how a page ends in a phase.
* `Narration` — what a step adds to the transcript, and what becomes of the log and the open point.
* `shownPoints` — the decision points that were shown in some turns.
* `PagePlan` — what the page of every session keeps.

## Main results

* `Step.narration` — every step adds to the transcript in one of these ways.
* `pagePlan_run` — what the page of the current session keeps in every play.
-/

namespace Playthrough

variable {F : Type}

/-! ### Cues of the transcript -/

namespace Cue

/-- Whether a cue is about the transcript. -/
def isTold : Cue → Bool
  | .say _ _ => true
  | .offer _ _ _ => true
  | .sayFailure _ => true
  | .sayEnd _ _ => true
  | .rule => true
  | .scrollDown => true
  | .turnPage => true
  | _ => false

/-- Whether a cue is about the transcript, but neither a text, a choice, an end nor a new page. -/
def isRemark : Cue → Bool
  | .sayFailure _ => true
  | .rule => true
  | .scrollDown => true
  | _ => false

/-- Whether a text is animated. -/
def textFlag? : Cue → Option Bool
  | .say _ animated => some animated
  | _ => none

/-- Whether a choice is animated. -/
def offerFlag? : Cue → Option Bool
  | .offer _ _ animated => some animated
  | _ => none

/-- How a session ended. -/
def ending? : Cue → Option Termination
  | .sayEnd _ termination => some termination
  | _ => none

/-- Whether a cue begins a new page. -/
def isTurnPage : Cue → Bool
  | .turnPage => true
  | _ => false

end Cue

/-- The cue about the transcript that a call gives. -/
def Call.told? : Call → Option Cue
  | .cue q => if q.isTold then some q else none
  | _ => none

/-- The cues about the transcript among some calls, in their order. -/
def transcript (cs : List Call) : List Cue :=
  cs.filterMap Call.told?

@[simp] theorem transcript_nil : transcript [] = [] := rfl

@[simp] theorem transcript_append (cs cs' : List Call) :
    transcript (cs ++ cs') = transcript cs ++ transcript cs' :=
  List.filterMap_append

@[simp] theorem transcript_cue (q : Cue) (cs : List Call) :
    transcript (.cue q :: cs) = if q.isTold then q :: transcript cs else transcript cs := by
  cases hq : q.isTold <;> simp [transcript, Call.told?, hq]

@[simp] theorem transcript_send (r : Request) (cs : List Call) :
    transcript (.send r :: cs) = transcript cs := rfl

theorem IssueDisplay.transcript_updateCalls (old new : List Marker) (l : IssueList)
    (left : Float) : transcript (updateCalls old l new left) = [] := by
  rw [transcript, filterMap_updateCalls]
  rcases tallyCue_cases l.tally with h | h <;>
    simp [h, Call.told?, Cue.isTold, markCall]

theorem Director.transcript_failureCalls (x : Diagnostic) :
    ∀ q ∈ transcript (failureCalls x), q.isRemark := by
  rcases failureCalls_cases x with h | h <;> simp [h, Cue.isTold, Cue.isRemark]

theorem Director.transcript_openingCalls (s : PlayState) (v : IssueDisplay) :
    transcript (openingCalls s v) = [.turnPage] := by
  have hclear : transcript (IssueDisplay.clearCalls v.markers) = [] := by
    rw [← IssueDisplay.updateCalls_clear v.markers [] {} 0]
    exact IssueDisplay.transcript_updateCalls _ _ _ _
  rcases stopCalls_cases s with h | h <;> simp [openingCalls, h, hclear, Cue.isTold]

/-! ### What a step adds -/

/-- How a page ends in a phase: the end is said once the session has ended. -/
inductive Ends : Phase → List Cue → Prop where
  | unended {phase : Phase} (h : phase.isFinal = false) : Ends phase []
  | finished (text : String) : Ends .completed [.sayEnd text .finished]
  | failed (text : String) : Ends .failed [.sayEnd text .failed]

theorem Ends.eq_nil {tail : List Cue} (h : Ends .running tail) : tail = [] := by
  cases h
  rfl

theorem Director.Sequel.ends {s s' : PlayState} {tail : List Call} (h : Sequel s s' tail)
    (hrunning : s.phase = .running) : Ends s'.phase (transcript tail) := by
  cases h with
  | sent => exact .unended (by rw [hrunning]; rfl)
  | lost e => exact .failed _

/-- Whether no decision point is shown. -/
def PlayState.Hides (s : PlayState) : Prop :=
  ∀ p, s.point = some p → p.replayed = true

/-- What a step may add to the transcript. -/
inductive Narration (h : Happening F) (s s' : PlayState) : List Cue → Prop where
  /-- A new page is begun. -/
  | start (tail : List Cue) (isStart : h.isStart = true) (ends : Ends s'.phase tail)
      (log : s'.log.cursor = .live ↔ s'.log.choices = []) (point : s'.point = none) :
      Narration h s s' (.turnPage :: tail)
  /-- Nothing is said, or something that is neither a text nor a choice, and the log stays. -/
  | remark (told : List Cue) (isStart : h.isStart = false) (remarks : ∀ q ∈ told, q.isRemark)
      (running : told ≠ [] → s.phase = .running) (phase : s'.phase = s.phase)
      (log : s'.log = s.log) (point : s'.point = s.point ∨ s.Hides ∧ s'.Hides ∧ s'.point ≠ none) :
      Narration h s s' told
  /-- A text is said. -/
  | say (text : String) (isStart : h.isStart = false) (running : s.phase = .running)
      (same : s' = s) : Narration h s s' [.say text !s.log.isReplaying]
  /-- A choice is shown. -/
  | offer (session : SessionId) (c : Choice) (isStart : h.isStart = false)
      (running : s.phase = .running) (phase : s'.phase = s.phase)
      (opened : (Director.openPoint s).2.replayed = false)
      (log : s'.log = (Director.openPoint s).1.log)
      (point : ∃ p, s'.point = some p ∧ p.replayed = false ∧
        p.animated = (Director.openPoint s).2.animated) :
      Narration h s s' [.offer session c (Director.openPoint s).2.animated]
  /-- A decision point is closed, because a choice is submitted or the session ends. -/
  | close (remarks tail : List Cue) (isStart : h.isStart = false) (running : s.phase = .running)
      (quiet : ∀ q ∈ remarks, q.isRemark) (ends : Ends s'.phase tail)
      (live : s'.log.cursor = .live ↔ s.log.cursor = .live) (point : s'.point = none) :
      Narration h s s' (remarks ++ tail)

theorem ChoiceLog.cursor_takeDue_ne_live {log : ChoiceLog} {n : Nat} (h : log.due = some n) :
    log.cursor ≠ .live ∧ log.takeDue.1.cursor ≠ .live := by
  obtain ⟨i, hcursor, -, htake⟩ := takeDue_eq h
  rw [htake, hcursor]
  exact ⟨Cursor.noConfusion, Cursor.noConfusion⟩

theorem ChoiceLog.cursor_add (log : ChoiceLog) (n : Nat) : (log.add n).1.cursor = log.cursor := by
  rw [add]
  split <;> rfl

theorem ChoiceLog.cursor_rewound (log : ChoiceLog) :
    log.rewound.cursor = .live ↔ log.rewound.choices = [] := by
  rw [rewound]
  cases log.choices <;> simp

/-- Every step adds to the transcript in one of these ways. -/
theorem Step.narration {h : Happening F} {s s' : PlayState} {v v' : IssueDisplay} {cs : List Call}
    (step : Step h s v cs s' v') : Narration h s s' (transcript cs) := by
  cases step with
  | still isStart unheard => exact .remark [] isStart (by simp) (by simp) rfl rfl (.inl rfl)
  | start log content isStart sequel =>
    rw [transcript_append, Director.transcript_openingCalls, transcript_send]
    refine .start _ isStart (sequel.ends rfl) ?_ (sequel.point_eq rfl)
    rw [sequel.log_eq]
    exact log.cursor_rewound
  | select n p selected running point shown offered sequel =>
    refine .close [] _ (by rw [selected]; rfl) running (by simp) (sequel.ends running) ?_
      (sequel.point_eq rfl)
    rw [sequel.log_eq, ChoiceLog.cursor_add]
  | visit asked =>
    have htold : transcript
        (s.issues.selectNext.2.map fun x => Call.cue (.moveTo x.line 0)).toList = [] := by
      cases s.issues.selectNext.2 <;> rfl
    rw [htold]
    exact .remark [] (by rw [asked]; rfl) (by simp) (by simp) rfl rfl (.inl rfl)
  | centre left asked =>
    exact .remark [] (by rw [asked]; rfl) (by simp) (by simp) rfl rfl (.inl rfl)
  | say text heard => exact .say text heard.isStart_eq heard.2 rfl
  | repeated x heard known =>
    exact .remark _ heard.isStart_eq (Director.transcript_failureCalls x) (fun _ => heard.2) rfl
      rfl (.inl rfl)
  | reported x issues new left heard unknown added length =>
    rw [transcript_append, IssueDisplay.transcript_updateCalls, List.append_nil]
    exact .remark _ heard.isStart_eq (Director.transcript_failureCalls x) (fun _ => heard.2) rfl
      rfl (.inl rfl)
  | absorb c heard replayed =>
    refine .remark [] heard.isStart_eq (by simp) (by simp) rfl rfl (.inr ⟨?_, ?_, by simp⟩)
    · intro p hp
      rwa [Director.openPoint_of_some hp] at replayed
    · intro p hp
      rwa [← Option.some.inj hp]
  | offer c heard shown =>
    exact .offer _ c heard.isStart_eq heard.2 rfl shown rfl ⟨_, rfl, shown, rfl⟩
  | rest heard noneDue =>
    exact .remark [.scrollDown] heard.isStart_eq (by simp [Cue.isRemark]) (fun _ => heard.2) rfl
      rfl (.inl rfl)
  | replay n heard due sequel =>
    have hdue : s.log.due = some n := by
      rw [← ChoiceLog.takeDue_snd, Director.takeDue_of_replayedChoice due]
    refine .close [.scrollDown, .rule] _ heard.isStart_eq heard.2 (by simp [Cue.isRemark])
      (sequel.ends heard.2) ?_ (sequel.point_eq rfl)
    obtain ⟨hbefore, hafter⟩ := ChoiceLog.cursor_takeDue_ne_live hdue
    rw [sequel.log_eq]
    exact ⟨fun hlive => absurd hlive hafter, fun hlive => absurd hlive hbefore⟩
  | conclude phase text termination heard final accords =>
    have hstart : h.isStart = false := heard.elim (·.isStart_eq) (·.isStart_eq)
    refine .close [] [.sayEnd text termination] hstart (heard.elim (·.2) (·.2)) (by simp) ?_
      Iff.rfl rfl
    cases phase with
    | idle => contradiction
    | running => contradiction
    | completed =>
      rw [accords.mpr rfl]
      exact .finished text
    | failed =>
      cases termination with
      | finished => simp at accords
      | failed => exact .failed text

/-! ### Pages -/

/-- The page of the transcript that some turns fill. -/
def page (ts : List (Turn F)) : List Cue :=
  transcript (callsOf ts)

@[simp] theorem page_append_singleton (ts : List (Turn F)) (t : Turn F) :
    page (ts ++ [t]) = page ts ++ transcript t.calls := by
  rw [page, callsOf_append, callsOf_singleton, transcript_append]
  rfl

/-- A page that goes on as long as its session does, and then says its end. -/
def EndsWell (phase : Phase) (cues : List Cue) : Prop :=
  ∃ body tail, cues = body ++ tail ∧ (∀ q ∈ body, q.ending? = none) ∧ Ends phase tail

/-- The texts of a page are animated from some moment on, which has not come as long as the log is
being taken again. -/
def TextsTurn (cursor : Cursor) (cues : List Cue) : Prop :=
  ∃ still animated, cues.filterMap Cue.textFlag? =
      List.replicate still false ++ List.replicate animated true ∧
    (cursor ≠ .live → animated = 0)

theorem Cue.isRemark_cases {q : Cue} (h : q.isRemark) :
    (∃ x, q = .sayFailure x) ∨ q = .rule ∨ q = .scrollDown := by
  cases q with
  | sayFailure x => exact .inl ⟨x, rfl⟩
  | rule => exact .inr (.inl rfl)
  | scrollDown => exact .inr (.inr rfl)
  | _ => contradiction

theorem Cue.ending?_of_isRemark {q : Cue} (h : q.isRemark) : q.ending? = none := by
  rcases isRemark_cases h with ⟨x, rfl⟩ | rfl | rfl <;> rfl

theorem Cue.textFlags_remarks {cues : List Cue} (h : ∀ q ∈ cues, q.isRemark) :
    cues.filterMap Cue.textFlag? = [] := by
  refine List.filterMap_eq_nil_iff.mpr fun q hq => ?_
  rcases isRemark_cases (h q hq) with ⟨x, rfl⟩ | rfl | rfl <;> rfl

theorem Cue.offerFlags_remarks {cues : List Cue} (h : ∀ q ∈ cues, q.isRemark) :
    cues.filterMap Cue.offerFlag? = [] := by
  refine List.filterMap_eq_nil_iff.mpr fun q hq => ?_
  rcases isRemark_cases (h q hq) with ⟨x, rfl⟩ | rfl | rfl <;> rfl

theorem Cue.not_turnsPage_of_isRemark {q : Cue} (h : q.isRemark) : q.isTurnPage = false := by
  rcases isRemark_cases h with ⟨x, rfl⟩ | rfl | rfl <;> rfl

theorem Ends.textFlags {phase : Phase} {tail : List Cue} (h : Ends phase tail) :
    tail.filterMap Cue.textFlag? = [] := by
  cases h <;> rfl

theorem Ends.offerFlags {phase : Phase} {tail : List Cue} (h : Ends phase tail) :
    tail.filterMap Cue.offerFlag? = [] := by
  cases h <;> rfl

theorem Ends.not_turnsPage {phase : Phase} {tail : List Cue} (h : Ends phase tail) :
    ∀ q ∈ tail, q.isTurnPage = false := by
  cases h <;> simp [Cue.isTurnPage]

namespace EndsWell

variable {phase phase' : Phase} {cues : List Cue}

theorem of_ends {tail : List Cue} (h : Ends phase tail) : EndsWell phase (.turnPage :: tail) :=
  ⟨[.turnPage], tail, rfl, by simp [Cue.ending?], h⟩

/-- What is added while the session runs, up to its end. -/
theorem add (h : EndsWell .running cues) {said tail : List Cue}
    (hsaid : ∀ q ∈ said, q.ending? = none) (htail : Ends phase' tail) :
    EndsWell phase' (cues ++ (said ++ tail)) := by
  obtain ⟨body, rest, rfl, hbody, hrest⟩ := h
  rw [hrest.eq_nil, List.append_nil, ← List.append_assoc]
  exact ⟨body ++ said, tail, rfl, fun q hq => (List.mem_append.mp hq).elim (hbody q) (hsaid q),
    htail⟩

/-- What is added while the session runs and goes on. -/
theorem add_unended (h : EndsWell .running cues) {said : List Cue}
    (hsaid : ∀ q ∈ said, q.ending? = none) : EndsWell .running (cues ++ said) := by
  have hends : Ends .running [] := .unended rfl
  simpa using h.add hsaid hends

/-- Nothing follows the end of a page. -/
theorem eq_nil_of_ending (h : EndsWell phase cues) {before after : List Cue} {q : Cue}
    (heq : cues = before ++ q :: after) (hq : q.ending? ≠ none) : after = [] := by
  obtain ⟨body, tail, rfl, hbody, htail⟩ := h
  have hmem : q ∉ body := fun hmem => hq (hbody q hmem)
  rcases List.append_eq_append_iff.mp heq with ⟨rest, rfl, hrest⟩ | ⟨rest, rfl, hrest⟩
  · -- the end is in the tail, which has one cue only
    have hone : tail.length ≤ 1 := by cases htail <;> simp
    rw [hrest, List.length_append, List.length_cons] at hone
    exact List.length_eq_zero_iff.mp (by omega)
  · cases rest with
    | nil =>
      rw [List.nil_append] at hrest
      rw [← hrest] at htail
      cases htail <;> rfl
    | cons x rest =>
      obtain ⟨rfl, -⟩ := List.cons.inj hrest
      exact absurd (List.mem_append_right _ List.mem_cons_self) hmem

/-- The end that a page says is that of the phase. -/
theorem mem_iff (h : EndsWell phase cues) (termination : Termination) :
    (∃ text, .sayEnd text termination ∈ cues) ↔
      phase = match termination with
        | .finished => .completed
        | .failed => .failed := by
  obtain ⟨body, tail, rfl, hbody, htail⟩ := h
  have hbody (text : String) : Cue.sayEnd text termination ∉ body :=
    fun hmem => by simpa [Cue.ending?] using hbody _ hmem
  cases htail with
  | unended h => cases phase <;> cases termination <;> simp_all [Phase.isFinal]
  | finished text => cases termination <;> simp [hbody]
  | failed text => cases termination <;> simp [hbody]

/-- A page says no end just as long as the session runs. -/
theorem unended_iff (h : EndsWell phase cues) (hbegun : phase ≠ .idle) :
    (∀ q ∈ cues, q.ending? = none) ↔ phase = .running := by
  obtain ⟨body, tail, rfl, hbody, htail⟩ := h
  cases htail with
  | unended h => cases phase <;> simp_all [Phase.isFinal]
  | finished text => simp [Cue.ending?]
  | failed text => simp [Cue.ending?]

/-- A turn that belongs to the current session. -/
theorem next {h : Happening F} {s s' : PlayState} {told : List Cue} (ends : EndsWell s.phase cues)
    (hstart : h.isStart = false) (narration : Narration h s s' told) :
    EndsWell s'.phase (cues ++ told) := by
  cases narration with
  | start _ isStart => simp [isStart] at hstart
  | remark _ _ remarks running phase =>
    rw [phase]
    rcases List.eq_nil_or_concat told with rfl | ⟨said, q, rfl⟩
    · rw [List.append_nil]
      exact ends
    · have hrunning := running (by simp)
      rw [hrunning]
      exact (hrunning ▸ ends).add_unended fun q hq => Cue.ending?_of_isRemark (remarks q hq)
  | say text _ running same =>
    rw [same, running]
    exact (running ▸ ends).add_unended (by simp [Cue.ending?])
  | offer _ c _ running phase =>
    rw [phase, running]
    exact (running ▸ ends).add_unended (by simp [Cue.ending?])
  | close remarks tail _ running quiet tailEnds =>
    exact (running ▸ ends).add (fun q hq => Cue.ending?_of_isRemark (quiet q hq)) tailEnds

end EndsWell

namespace TextsTurn

variable {cursor cursor' : Cursor} {cues : List Cue}

/-- What is added without a text. -/
theorem add (h : TextsTurn cursor cues) {said : List Cue}
    (hsaid : said.filterMap Cue.textFlag? = []) (hlive : cursor = .live → cursor' = .live) :
    TextsTurn cursor' (cues ++ said) := by
  obtain ⟨still, animated, hflags, hnone⟩ := h
  refine ⟨still, animated, ?_, fun hcursor => hnone fun hlive' => hcursor (hlive hlive')⟩
  rw [List.filterMap_append, hsaid, List.append_nil, hflags]

/-- A text is added. -/
theorem say (h : TextsTurn cursor cues) (text : String) :
    TextsTurn cursor (cues ++ [.say text !(cursor != .live)]) := by
  obtain ⟨still, animated, hflags, hnone⟩ := h
  have hsaid : [Cue.say text !(cursor != .live)].filterMap Cue.textFlag? =
      [!(cursor != .live)] := rfl
  by_cases hlive : cursor = .live
  · refine ⟨still, animated + 1, ?_, fun hcursor => absurd hlive hcursor⟩
    rw [List.filterMap_append, hsaid, hflags, List.replicate_succ', List.append_assoc, hlive]
    rfl
  · refine ⟨still + 1, 0, ?_, fun _ => rfl⟩
    have hflag : (!(cursor != .live)) = false := by simp [hlive]
    rw [List.filterMap_append, hsaid, hflags, hnone hlive, hflag, List.replicate_succ']
    simp

/-- A turn that belongs to the current session. -/
theorem next {h : Happening F} {s s' : PlayState} {told : List Cue} {sent : List Nat}
    (texts : TextsTurn s.log.cursor cues) (hstart : h.isStart = false) (fits : s.PointFits)
    (tracks : s.log.Tracks sent) (narration : Narration h s s' told) :
    TextsTurn s'.log.cursor (cues ++ told) := by
  cases narration with
  | start _ isStart => simp [isStart] at hstart
  | remark _ _ remarks _ _ log =>
    rw [log]
    exact texts.add (Cue.textFlags_remarks remarks) id
  | say text _ _ same =>
    rw [same]
    exact texts.say text
  | offer _ c _ _ _ opened log =>
    exact texts.add rfl fun _ => log ▸ (fits.log_openPoint tracks opened).1
  | close remarks tail _ _ quiet ends live =>
    refine texts.add ?_ live.mpr
    rw [List.filterMap_append, ends.textFlags, List.append_nil, Cue.textFlags_remarks quiet]

end TextsTurn

/-! ### Decision points that are shown -/

/-- The flags of points that were shown, with those of one more point, if there are any. -/
def addPoint (points : List (List Bool)) (flags : List Bool) : List (List Bool) :=
  if flags = [] then points else points ++ [flags]

/-- Which of the choices shown in some turns were animated: those of the decision points that are
closed, point by point, and those of the one that is open. -/
def splitPoints (ts : List (Turn F)) : List (List Bool) × List Bool :=
  ts.foldl (fun points t =>
    let flags := points.2 ++ (transcript t.calls).filterMap Cue.offerFlag?
    if t.after.point = none then (addPoint points.1 flags, []) else (points.1, flags)) ([], [])

/-- Which of the choices shown in some turns were animated, for each decision point at which some
were shown. -/
def shownPoints (ts : List (Turn F)) : List (List Bool) :=
  addPoint (splitPoints ts).1 (splitPoints ts).2

theorem splitPoints_append_singleton (ts : List (Turn F)) (t : Turn F) :
    splitPoints (ts ++ [t]) =
      let flags := (splitPoints ts).2 ++ (transcript t.calls).filterMap Cue.offerFlag?
      if t.after.point = none then (addPoint (splitPoints ts).1 flags, [])
      else ((splitPoints ts).1, flags) := by
  rw [splitPoints, List.foldl_append]
  rfl

theorem flatten_addPoint (points : List (List Bool)) (flags : List Bool) :
    (addPoint points flags).flatten = points.flatten ++ flags := by
  rw [addPoint]
  split
  · next h => rw [h, List.append_nil]
  · rw [List.flatten_append, List.flatten_singleton]

/-- No choice is left out. -/
theorem flatten_shownPoints (ts : List (Turn F)) :
    (shownPoints ts).flatten = (page ts).filterMap Cue.offerFlag? := by
  rw [shownPoints, flatten_addPoint]
  induction ts using List.reverseRecOn with
  | nil => rfl
  | append_singleton ts t ih =>
    rw [splitPoints_append_singleton, page_append_singleton, List.filterMap_append, ← ih]
    split <;> simp [flatten_addPoint]

theorem ChoiceLog.snd_goLive (log : ChoiceLog) : log.goLive.2 = log.isCaughtUp := by
  rw [goLive]
  split <;> simp_all

theorem ChoiceLog.isCaughtUp_of_goLive {log : ChoiceLog} (h : log.cursor ≠ .live)
    (hlive : log.goLive.1.cursor = .live) : log.isCaughtUp = true := by
  rw [goLive] at hlive
  split at hlive
  · assumption
  · exact absurd hlive h

/-- A point that is opened to be shown is not animated if the story goes live with it. -/
theorem Director.openPoint_shown {s : PlayState} (hpoint : s.point = none)
    (hshown : (openPoint s).2.replayed = false) :
    (openPoint s).1.log = s.log.goLive.1 ∧ (openPoint s).2.animated = !s.log.isCaughtUp := by
  rw [← s.log.snd_goLive]
  simp only [openPoint, hpoint] at hshown ⊢
  split at hshown
  · contradiction
  · next hdue =>
    rw [if_neg hdue]
    exact ⟨rfl, rfl⟩

/-- How the points of a session that began with the log `L` are animated: all of them, but for the
first one if a choice had to be taken again. -/
def Animated (L : List Nat) (points : List (List Bool)) : Prop :=
  ∀ i flags, points[i]? = some flags → ∀ animated ∈ flags, (animated = true ↔ L = [] ∨ i ≠ 0)

/-- What is kept about the points of a session that began with the log `L`, which are closed, and
the one that is open. -/
structure PointPlan (L : List Nat) (closed : List (List Bool)) (opened : List Bool)
    (s : PlayState) : Prop where
  animated : Animated L closed
  shown : ∀ p, s.point = some p → p.replayed = false →
    opened ≠ [] ∧ (∀ a ∈ opened, a = p.animated) ∧ (p.animated = true ↔ L = [] ∨ closed ≠ [])
  hidden : s.Hides → opened = []
  replaying : s.log.cursor ≠ .live → closed = [] ∧ opened = [] ∧ L ≠ []
  live : s.log.cursor = .live → L ≠ [] → closed ≠ [] ∨ opened ≠ []

namespace PointPlan

variable {L : List Nat} {closed : List (List Bool)} {opened : List Bool} {s s' : PlayState}

/-- The open point is animated like any other one. -/
theorem animated_addPoint (plan : PointPlan L closed opened s) :
    Animated L (addPoint closed opened) := by
  rw [addPoint]
  split
  · exact plan.animated
  · next hne =>
    have hshown : ∃ p, s.point = some p ∧ p.replayed = false := by
      by_contra hnone
      refine hne (plan.hidden fun p hp => ?_)
      exact Bool.eq_true_of_not_eq_false fun hreplayed => hnone ⟨p, hp, hreplayed⟩
    obtain ⟨p, hp, hreplayed⟩ := hshown
    obtain ⟨-, hflags, hiff⟩ := plan.shown p hp hreplayed
    intro i flags hi a ha
    rw [List.getElem?_append] at hi
    split at hi
    · exact plan.animated i flags hi a ha
    · next hlt =>
      -- the point at the end of the list is the open one
      have hi0 : i - closed.length = 0 := by
        by_contra hpos
        rw [List.getElem?_eq_none (by simp; omega)] at hi
        contradiction
      rw [hi0] at hi
      obtain rfl : opened = flags := Option.some.inj hi
      have hzero : i ≠ 0 ↔ closed ≠ [] := by
        rw [← List.length_pos_iff]
        omega
      rw [hflags a ha, hiff, hzero]

theorem start (hlog : s.log.cursor = .live ↔ s.log.choices = []) (hpoint : s.point = none) :
    PointPlan s.log.choices [] [] s where
  animated i flags hi := by simp at hi
  shown p hp := by simp [hpoint] at hp
  hidden _ := rfl
  replaying hcursor := ⟨rfl, rfl, fun hnil => hcursor (hlog.mpr hnil)⟩
  live hcursor hne := absurd (hlog.mp hcursor) hne

/-- Neither the log nor the choices that are shown change. -/
theorem keep (plan : PointPlan L closed opened s) (hlog : s'.log = s.log)
    (hpoint : s'.point = s.point ∨ s.Hides ∧ s'.Hides) : PointPlan L closed opened s' where
  animated := plan.animated
  shown p hp hreplayed := by
    rcases hpoint with hpoint | ⟨-, hhides⟩
    · exact plan.shown p (hpoint ▸ hp) hreplayed
    · rw [hhides p hp] at hreplayed
      contradiction
  hidden hhides := by
    rcases hpoint with hpoint | ⟨hhid, -⟩
    · exact plan.hidden fun p hp => hhides p (hpoint ▸ hp)
    · exact plan.hidden hhid
  replaying := by
    rw [hlog]
    exact plan.replaying
  live := by
    rw [hlog]
    exact plan.live

/-- A choice is shown, at a point that is open or is opened for it. -/
theorem offer {sent : List Nat} (plan : PointPlan L closed opened s) (fits : s.PointFits)
    (tracks : s.log.Tracks sent) (hopened : (Director.openPoint s).2.replayed = false)
    (hlog : s'.log = (Director.openPoint s).1.log) {p : DecisionPoint} (hp : s'.point = some p)
    (hshown : p.replayed = false) (hanimated : p.animated = (Director.openPoint s).2.animated) :
    PointPlan L closed (opened ++ [(Director.openPoint s).2.animated]) s' := by
  obtain ⟨hlive, -, -⟩ := fits.log_openPoint tracks hopened
  have hflags : (∀ a ∈ opened, a = (Director.openPoint s).2.animated) ∧
      ((Director.openPoint s).2.animated = true ↔ L = [] ∨ closed ≠ []) := by
    cases hpoint : s.point with
    | some q =>
      rw [Director.openPoint_of_some hpoint] at hopened ⊢
      exact (plan.shown q hpoint hopened).2
    | none =>
      have hnone : opened = [] := plan.hidden fun q hq => by simp [hpoint] at hq
      obtain ⟨hlogged, hanimated⟩ := Director.openPoint_shown hpoint hopened
      refine ⟨by simp [hnone], ?_⟩
      rw [hanimated]
      by_cases hcursor : s.log.cursor = .live
      · have hbefore : L = [] ∨ closed ≠ [] := by
          by_cases hL : L = []
          · exact .inl hL
          · exact .inr ((plan.live hcursor hL).resolve_right (not_not_intro hnone))
        simp [ChoiceLog.isCaughtUp, hcursor, hbefore]
      · obtain ⟨hclosed, -, hL⟩ := plan.replaying hcursor
        rw [hlogged] at hlive
        simp [ChoiceLog.isCaughtUp_of_goLive hcursor hlive, hclosed, hL]
  refine ⟨plan.animated, fun q hq _ => ?_, fun hhides => ?_, fun hcursor => ?_, fun _ _ => ?_⟩
  · obtain rfl : p = q := Option.some.inj (hp.symm.trans hq)
    refine ⟨by simp, fun a ha => ?_, hanimated ▸ hflags.2⟩
    rcases List.mem_append.mp ha with ha | ha
    · exact (hflags.1 a ha).trans hanimated.symm
    · exact (List.mem_singleton.mp ha).trans hanimated.symm
  · rw [hhides p hp] at hshown
    contradiction
  · exact absurd (hlog ▸ hlive) hcursor
  · exact .inr (by simp)

/-- The open point is closed. -/
theorem close (plan : PointPlan L closed opened s)
    (hlive : s'.log.cursor = .live ↔ s.log.cursor = .live) (hpoint : s'.point = none) :
    PointPlan L (addPoint closed opened) [] s' where
  animated := plan.animated_addPoint
  shown p hp := by simp [hpoint] at hp
  hidden _ := rfl
  replaying hcursor := by
    obtain ⟨hclosed, hnone, hL⟩ := plan.replaying (hlive.not.mp hcursor)
    exact ⟨by simp [hclosed, hnone, addPoint], rfl, hL⟩
  live hcursor hL := by
    left
    rcases plan.live (hlive.mp hcursor) hL with hne | hne <;> rw [addPoint] <;> split <;> simp_all

variable {session : List (Turn F)} {t : Turn F}

/-- Nothing is shown at a point in a turn that leaves the open point as it is. -/
theorem splitPoints_keep
    (plan : PointPlan L (splitPoints session).1 (splitPoints session).2 t.before)
    (hnone : (transcript t.calls).filterMap Cue.offerFlag? = [])
    (hpoint : t.after.point = none → t.before.point = none) :
    splitPoints (session ++ [t]) = splitPoints session := by
  rw [splitPoints_append_singleton, hnone, List.append_nil]
  split
  · next hafter =>
    have hopened : (splitPoints session).2 = [] :=
      plan.hidden fun p hp => by simp [hpoint hafter] at hp
    exact Prod.ext (if_pos hopened) hopened.symm
  · rfl

/-- A turn that belongs to the current session. -/
theorem next {sent : List Nat}
    (plan : PointPlan L (splitPoints session).1 (splitPoints session).2 t.before)
    (hstart : t.isStart = false) (fits : t.before.PointFits) (tracks : t.before.log.Tracks sent)
    (narration : Narration t.happening t.before t.after (transcript t.calls)) :
    PointPlan L (splitPoints (session ++ [t])).1 (splitPoints (session ++ [t])).2 t.after := by
  generalize hcues : transcript t.calls = cues at narration
  cases narration with
  | start _ isStart => simp [Turn.isStart, isStart] at hstart
  | remark _ _ remarks _ _ log point =>
    have hpoints : splitPoints (session ++ [t]) = splitPoints session := by
      refine plan.splitPoints_keep ?_ fun hnone => ?_
      · rw [hcues, Cue.offerFlags_remarks remarks]
      · exact point.elim (fun hsame => hsame ▸ hnone) fun hopen => absurd hnone hopen.2.2
    rw [hpoints]
    exact plan.keep log (point.imp_right fun hhides => ⟨hhides.1, hhides.2.1⟩)
  | say text _ _ same =>
    have hpoints : splitPoints (session ++ [t]) = splitPoints session :=
      plan.splitPoints_keep (by rw [hcues]; rfl) fun hnone => same ▸ hnone
    rw [hpoints, same]
    exact plan
  | offer _ c _ _ _ opened log point =>
    obtain ⟨p, hp, hshown, hanimated⟩ := point
    have hpoints : splitPoints (session ++ [t]) =
        ((splitPoints session).1,
          (splitPoints session).2 ++ [(Director.openPoint t.before).2.animated]) := by
      rw [splitPoints_append_singleton, hcues, hp, if_neg (by simp)]
      rfl
    rw [hpoints]
    exact plan.offer fits tracks opened log hp hshown hanimated
  | close remarks tail _ _ quiet ends live point =>
    have hoffers : (remarks ++ tail).filterMap Cue.offerFlag? = [] := by
      rw [List.filterMap_append, ends.offerFlags, List.append_nil, Cue.offerFlags_remarks quiet]
    have hpoints : splitPoints (session ++ [t]) =
        (addPoint (splitPoints session).1 (splitPoints session).2, []) := by
      rw [splitPoints_append_singleton, hcues, hoffers, List.append_nil, if_pos point]
    rw [hpoints]
    exact plan.close live point

end PointPlan

/-! ### Whole sessions -/

/-- What the page of a session that began with the log `L` keeps, with the state behind its
turns. -/
structure PagePlan (L : List Nat) (session : List (Turn F)) (s : PlayState) : Prop where
  ends : EndsWell s.phase (page session)
  texts : TextsTurn s.log.cursor (page session)
  points : PointPlan L (splitPoints session).1 (splitPoints session).2 s

namespace PagePlan

variable {L : List Nat} {session : List (Turn F)} {t : Turn F}

/-- The first turn of a session. -/
theorem start (hstart : t.isStart = true)
    (narration : Narration t.happening t.before t.after (transcript t.calls)) :
    PagePlan t.after.log.choices [t] t.after := by
  have hpage : page [t] = transcript t.calls := by rw [page, callsOf_singleton]
  generalize hcues : transcript t.calls = cues at narration
  cases narration with
  | start tail _ ends log point =>
    have htexts : (Cue.turnPage :: tail).filterMap Cue.textFlag? = [] := ends.textFlags
    have hoffers : (Cue.turnPage :: tail).filterMap Cue.offerFlag? = [] := ends.offerFlags
    have hpoints : splitPoints [t] = ([], []) := by
      rw [← List.nil_append [t], splitPoints_append_singleton, hcues, hoffers, if_pos point]
      rfl
    refine ⟨?_, ⟨0, 0, ?_, fun _ => rfl⟩, ?_⟩
    · rw [hpage, hcues]
      exact .of_ends ends
    · rw [hpage, hcues, htexts]
      rfl
    · rw [hpoints]
      exact .start log point
  | remark _ isStart => simp [Turn.isStart, isStart] at hstart
  | say _ isStart => simp [Turn.isStart, isStart] at hstart
  | offer _ _ isStart => simp [Turn.isStart, isStart] at hstart
  | close _ _ isStart => simp [Turn.isStart, isStart] at hstart

/-- A turn that belongs to the current session. -/
theorem next {sent : List Nat} (plan : PagePlan L session t.before) (hstart : t.isStart = false)
    (fits : t.before.PointFits) (tracks : t.before.log.Tracks sent)
    (narration : Narration t.happening t.before t.after (transcript t.calls)) :
    PagePlan L (session ++ [t]) t.after where
  ends := by
    rw [page_append_singleton]
    exact plan.ends.next hstart narration
  texts := by
    rw [page_append_singleton]
    exact plan.texts.next hstart fits tracks narration
  points := plan.points.next hstart fits tracks narration

end PagePlan

variable [Frontend F]

/-- The page of the current session keeps this in every play. -/
theorem pagePlan_run (front : F) (hs : List (Happening F)) :
    PagePlan (openingLog (sessionTurns ((Director.opening front).turns hs)))
      (sessionTurns ((Director.opening front).turns hs))
      ((Director.opening front).run hs).state := by
  induction hs using List.reverseRecOn with
  | nil =>
    refine ⟨⟨[], [], rfl, by simp, .unended rfl⟩, ⟨0, 0, rfl, fun _ => rfl⟩, ?_⟩
    exact PointPlan.start (s := (Director.opening front).state) (by simp [Director.opening]) rfl
  | append_singleton hs h ih =>
    have hnarration := (((Director.opening front).run hs).turn_step h).narration
    have hpath := onPath_run front hs
    rw [Director.turns_append, Director.turns_singleton, sessionTurns_append_singleton,
      Director.run_append, Director.run_singleton]
    by_cases hstart : (((Director.opening front).run hs).turn h).isStart
    · rw [if_pos hstart, openingLog, if_pos hstart]
      exact .start hstart hnarration
    · rw [if_neg hstart, openingLog_append_singleton _ (by simpa using hstart)]
      exact ih.next (by simpa using hstart) hpath.pointFits hpath.tracks hnarration

end Playthrough
