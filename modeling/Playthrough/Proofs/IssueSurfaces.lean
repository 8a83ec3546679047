import Playthrough.Proofs.IssueOrder
import Playthrough.Proofs.Kept
import Playthrough.Proofs.Turn
import Playthrough.Rehearsal

/-!
# The issues that are shown are those of the session

The issues of a session are shown in several places: as notes and markers beside the text, as
entries of a list, by the visibility of that list, and as numbers. Only an update of the issues
touches these, and it builds all of them anew from the issues that have arrived. So after every turn
they show the diagnostics that were reported in the current session and nothing else.

Markers have names, which the front end gives. An update takes away all markers of the update
before. If no name is given twice, the markers that were made and not taken away are therefore
exactly those of the last update.

## Main definitions

* `Happening.report?`, `reports` — the diagnostics reported in a session before it ended.
* `lastNotes`, `lastEntries`, `lastTally` — what was shown last in some calls.
* `marksMade`, `marksTaken`, `marksLeft` — the markers made, taken away, and left by some calls.
* `Shows` — some calls leave the diagnostics of a list on all surfaces.

## Main results

* `Step.refresh` — a step leaves all surfaces alone or updates all of them.
* `Shows.of_update` — what is shown after an update.
* `issues_shown_are_those_of_session` — the surfaces always show the diagnostics of the session.
-/

namespace Playthrough

variable {F : Type}

/-! ### Calls about issues -/

namespace Call

/-- The notes that a call shows. -/
def notes? : Call → Option (List Note)
  | .cue (.showNotes notes) => some notes
  | _ => none

/-- The entries that a call shows. -/
def entries? : Call → Option (List IssueEntry)
  | .cue (.showEntries entries) => some entries
  | _ => none

/-- What a call says about the number of issues. -/
def tally? : Call → Option Cue
  | .cue (.showNone message) => some (.showNone message)
  | .cue (.showBadge badge) => some (.showBadge badge)
  | _ => none

/-- The marker that a call makes, with its rows and its look. -/
def made? : Call → Option (Marker × RowSpan × Style)
  | .mark m rows style => some (m, rows, style)
  | _ => none

/-- The marker that a call takes away. -/
def taken? : Call → Option Marker
  | .cue (.unmark m) => some m
  | _ => none

/-- Whether a call leaves the issues alone. -/
def isAside : Call → Bool
  | .cue (.showNotes _) => false
  | .cue (.unmark _) => false
  | .cue (.showNone _) => false
  | .cue (.showBadge _) => false
  | .cue (.showEntries _) => false
  | .mark _ _ _ => false
  | _ => true

theorem of_isAside {c : Call} (h : c.isAside) :
    c.notes? = none ∧ c.entries? = none ∧ c.tally? = none ∧ c.made? = none ∧ c.taken? = none := by
  cases c with
  | cue q => cases q <;> simp_all [isAside, notes?, entries?, tally?, made?, taken?]
  | mark m rows style => simp [isAside] at h
  | send r => exact ⟨rfl, rfl, rfl, rfl, rfl⟩

end Call

/-- The notes shown last in some calls. -/
def lastNotes (cs : List Call) : Option (List Note) :=
  (cs.filterMap Call.notes?).getLast?

/-- The entries of the list of issues shown last in some calls. -/
def lastEntries (cs : List Call) : Option (List IssueEntry) :=
  (cs.filterMap Call.entries?).getLast?

/-- What some calls say last about the number of issues. -/
def lastTally (cs : List Call) : Option Cue :=
  (cs.filterMap Call.tally?).getLast?

/-- The markers made in some calls, with their rows and looks. -/
def marksMade (cs : List Call) : List (Marker × RowSpan × Style) :=
  cs.filterMap Call.made?

/-- The markers taken away in some calls. -/
def marksTaken (cs : List Call) : List Marker :=
  cs.filterMap Call.taken?

/-- The markers made in some calls and not taken away in any of them. -/
def marksLeft (cs : List Call) : List (Marker × RowSpan × Style) :=
  (marksMade cs).filter fun mark => mark.1 ∉ marksTaken cs

/-- The names given to the markers made in some calls. -/
def namesMade (cs : List Call) : List Marker :=
  (marksMade cs).map Prod.fst

section

variable (cs cs' : List Call)

@[simp] theorem marksMade_append : marksMade (cs ++ cs') = marksMade cs ++ marksMade cs' :=
  List.filterMap_append

@[simp] theorem marksTaken_append : marksTaken (cs ++ cs') = marksTaken cs ++ marksTaken cs' :=
  List.filterMap_append

@[simp] theorem namesMade_append : namesMade (cs ++ cs') = namesMade cs ++ namesMade cs' := by
  simp [namesMade]

end

section Asides

variable {cs cs' : List Call}

theorem filterMap_append_asides {α : Type} {f : Call → Option α} (h : ∀ c ∈ cs', f c = none) :
    (cs ++ cs').filterMap f = cs.filterMap f := by
  rw [List.filterMap_append, List.filterMap_eq_nil_iff.mpr h, List.append_nil]

theorem lastNotes_append_asides (h : ∀ c ∈ cs', c.isAside) :
    lastNotes (cs ++ cs') = lastNotes cs := by
  rw [lastNotes, filterMap_append_asides fun c hc => (Call.of_isAside (h c hc)).1, lastNotes]

theorem lastEntries_append_asides (h : ∀ c ∈ cs', c.isAside) :
    lastEntries (cs ++ cs') = lastEntries cs := by
  rw [lastEntries, filterMap_append_asides fun c hc => (Call.of_isAside (h c hc)).2.1, lastEntries]

theorem lastTally_append_asides (h : ∀ c ∈ cs', c.isAside) :
    lastTally (cs ++ cs') = lastTally cs := by
  rw [lastTally, filterMap_append_asides fun c hc => (Call.of_isAside (h c hc)).2.2.1, lastTally]

theorem marksMade_asides (h : ∀ c ∈ cs, c.isAside) : marksMade cs = [] :=
  List.filterMap_eq_nil_iff.mpr fun c hc => (Call.of_isAside (h c hc)).2.2.2.1

theorem marksTaken_asides (h : ∀ c ∈ cs, c.isAside) : marksTaken cs = [] :=
  List.filterMap_eq_nil_iff.mpr fun c hc => (Call.of_isAside (h c hc)).2.2.2.2

theorem marksLeft_append_asides (h : ∀ c ∈ cs', c.isAside) :
    marksLeft (cs ++ cs') = marksLeft cs := by
  simp [marksLeft, marksMade_asides h, marksTaken_asides h]

end Asides

namespace IssueDisplay

variable {old new : List Marker} {l : IssueList} {left : Float}

/-- The markers that an update makes. -/
def newMarks (l : IssueList) (new : List Marker) : List (Marker × RowSpan × Style) :=
  (l.shown.zip new).map fun p => (p.2, p.1.rowSpan, p.1.severity.style)

theorem map_fst_newMarks (hlength : new.length = l.shown.length) :
    (newMarks l new).map Prod.fst = new := by
  rw [newMarks, List.map_map]
  exact List.map_snd_zip (Nat.le_of_eq hlength)

theorem map_snd_newMarks (hlength : new.length = l.shown.length) :
    (newMarks l new).map Prod.snd = l.shown.map fun x => (x.rowSpan, x.severity.style) := by
  have hfst : (l.shown.zip new).map Prod.fst = l.shown :=
    List.map_fst_zip (Nat.le_of_eq hlength.symm)
  conv_rhs => rw [← hfst, List.map_map]
  rw [newMarks, List.map_map]
  rfl

theorem marksMade_updateCalls : marksMade (updateCalls old l new left) = newMarks l new := by
  rw [marksMade, filterMap_updateCalls]
  simp [Call.made?, newMarks, markCall]

theorem namesMade_updateCalls (hlength : new.length = l.shown.length) :
    namesMade (updateCalls old l new left) = new := by
  rw [namesMade, marksMade_updateCalls, map_fst_newMarks hlength]

theorem marksTaken_updateCalls : marksTaken (updateCalls old l new left) = old := by
  rw [marksTaken, filterMap_updateCalls]
  rcases tallyCue_cases l.tally with h | h <;> simp [Call.taken?, markCall, h]

theorem lastNotes_updateCalls (cs : List Call) :
    lastNotes (cs ++ updateCalls old l new left) = some (l.shown.map Diagnostic.note) := by
  have hmarks : (l.shown.zip new).filterMap (fun p => (markCall p).notes?) = [] :=
    List.filterMap_eq_nil_iff.mpr fun _ _ => rfl
  rw [lastNotes, List.filterMap_append, filterMap_updateCalls, hmarks]
  rcases tallyCue_cases l.tally with h | h <;> simp [Call.notes?, h]

theorem lastEntries_updateCalls (cs : List Call) :
    lastEntries (cs ++ updateCalls old l new left) = some (l.shown.map Diagnostic.entry) := by
  rw [lastEntries, List.filterMap_append, filterMap_updateCalls]
  rcases tallyCue_cases l.tally with h | h <;> simp [Call.entries?, markCall, h]

theorem lastTally_updateCalls (cs : List Call) :
    lastTally (cs ++ updateCalls old l new left) = some (tallyCue l.tally) := by
  rw [lastTally, List.filterMap_append, filterMap_updateCalls]
  rcases tallyCue_cases l.tally with h | h <;> simp [Call.tally?, markCall, h]

end IssueDisplay

/-! ### Markers -/

/-- What the calls of every play keep about markers, with what is left of them: none is taken away
that was not made, none is taken away twice, and the others are those that are remembered. -/
structure MarkersKept (cs : List Call) (v : IssueDisplay) : Prop where
  made : ∀ m ∈ marksTaken cs, m ∈ namesMade cs
  once : (marksTaken cs).Nodup
  left : (marksLeft cs).map Prod.fst = v.markers

namespace MarkersKept

variable {cs cs' : List Call} {v : IssueDisplay} {l : IssueList} {new : List Marker} {left : Float}

theorem mem_namesMade (h : MarkersKept cs v) {m : Marker} (hm : m ∈ v.markers) :
    m ∈ namesMade cs := by
  rw [← h.left] at hm
  exact (List.filter_sublist.map Prod.fst).subset hm

theorem not_mem_marksTaken (h : MarkersKept cs v) {m : Marker} (hm : m ∈ v.markers) :
    m ∉ marksTaken cs := by
  rw [← h.left] at hm
  obtain ⟨mark, hmark, rfl⟩ := List.mem_map.mp hm
  simpa using (List.mem_filter.mp hmark).2

theorem append_asides (h : MarkersKept cs v) (hasides : ∀ c ∈ cs', c.isAside) :
    MarkersKept (cs ++ cs') v where
  made := by simpa [namesMade, marksMade_asides hasides, marksTaken_asides hasides] using h.made
  once := by simpa [marksTaken_asides hasides] using h.once
  left := by rw [marksLeft_append_asides hasides, h.left]

/-- An update takes away all markers that are left, and leaves the new ones. -/
theorem marksLeft_append_updateCalls (h : MarkersKept cs v)
    (hfresh : (namesMade (cs ++ IssueDisplay.updateCalls v.markers l new left)).Nodup) :
    marksLeft (cs ++ IssueDisplay.updateCalls v.markers l new left) =
      IssueDisplay.newMarks l new := by
  rw [namesMade_append, List.nodup_append] at hfresh
  obtain ⟨-, -, hdisjoint⟩ := hfresh
  rw [marksLeft, marksMade_append, marksTaken_append, IssueDisplay.marksMade_updateCalls,
    IssueDisplay.marksTaken_updateCalls, List.filter_append]
  have hold : (marksMade cs).filter (fun mark => mark.1 ∉ marksTaken cs ++ v.markers) = [] := by
    refine List.filter_eq_nil_iff.mpr fun mark hmark => ?_
    rw [decide_eq_true_eq, not_not, List.mem_append]
    by_cases htaken : mark.1 ∈ marksTaken cs
    · exact .inl htaken
    · refine .inr (h.left ▸ List.mem_map_of_mem ?_)
      exact List.mem_filter.mpr ⟨hmark, decide_eq_true htaken⟩
  have hnew : (IssueDisplay.newMarks l new).filter
      (fun mark => mark.1 ∉ marksTaken cs ++ v.markers) = IssueDisplay.newMarks l new := by
    refine List.filter_eq_self.mpr fun mark hmark => ?_
    have hname : mark.1 ∈ namesMade (IssueDisplay.updateCalls v.markers l new left) := by
      rw [namesMade, IssueDisplay.marksMade_updateCalls]
      exact List.mem_map_of_mem hmark
    rw [decide_eq_true_eq, List.mem_append]
    rintro (htaken | hmarker)
    · exact hdisjoint _ (h.made _ htaken) _ hname rfl
    · exact hdisjoint _ (h.mem_namesMade hmarker) _ hname rfl
  rw [hold, hnew, List.nil_append]

theorem append_updateCalls (h : MarkersKept cs v) (hlength : new.length = l.shown.length)
    (hfresh : (namesMade (cs ++ IssueDisplay.updateCalls v.markers l new left)).Nodup)
    (listVisible : Bool) :
    MarkersKept (cs ++ IssueDisplay.updateCalls v.markers l new left) ⟨new, listVisible⟩ where
  made m hm := by
    rw [marksTaken_append, IssueDisplay.marksTaken_updateCalls] at hm
    rw [namesMade_append, List.mem_append]
    rcases List.mem_append.mp hm with hm | hm
    · exact .inl (h.made m hm)
    · exact .inl (h.mem_namesMade hm)
  once := by
    have hnames : (namesMade cs).Nodup := by
      rw [namesMade_append] at hfresh
      exact (List.nodup_append.mp hfresh).1
    have hmarkers : v.markers.Nodup := by
      rw [← h.left]
      exact hnames.sublist (List.filter_sublist.map Prod.fst)
    rw [marksTaken_append, IssueDisplay.marksTaken_updateCalls, List.nodup_append]
    refine ⟨h.once, hmarkers, ?_⟩
    rintro m htaken _ hmarker rfl
    exact h.not_mem_marksTaken hmarker htaken
  left := by
    rw [h.marksLeft_append_updateCalls hfresh]
    exact IssueDisplay.map_fst_newMarks hlength

end MarkersKept

/-! ### What is shown -/

theorem Diagnostic.textRow_eq (x : Diagnostic) : x.textRow = max x.line 1 - 1 := by
  unfold textRow
  omega

theorem Diagnostic.rowSpan_eq (x : Diagnostic) :
    x.rowSpan = ⟨max x.line 1 - 1, max x.line 1⟩ := by
  rw [rowSpan, textRow_eq, RowSpan.mk.injEq]
  omega

/-- Some calls leave the diagnostics of the list `D` on all surfaces, with what is remembered of
them. -/
structure Shows (cs : List Call) (v : IssueDisplay) (D : List Diagnostic) : Prop where
  notes : lastNotes cs = some (D.map fun x => ⟨max x.line 1 - 1, 0, x.message, x.severity.style⟩)
  entries : lastEntries cs = some (D.map fun x => ⟨x.line, x.message, x.severity.style⟩)
  markers : (marksLeft cs).map Prod.fst = v.markers
  marked : (marksLeft cs).map Prod.snd =
    D.map fun x => (⟨max x.line 1 - 1, max x.line 1⟩, x.severity.style)
  listVisible : v.listVisible = true ↔ D ≠ []
  tally : lastTally cs =
    some (if D = [] then .showNone noIssuesMessage else .showBadge (.ofTally (.ofList D)))

namespace Shows

variable {cs cs' : List Call} {v : IssueDisplay} {D : List Diagnostic}

theorem append_asides (h : Shows cs v D) (hasides : ∀ c ∈ cs', c.isAside) :
    Shows (cs ++ cs') v D where
  notes := by rw [lastNotes_append_asides hasides, h.notes]
  entries := by rw [lastEntries_append_asides hasides, h.entries]
  markers := by rw [marksLeft_append_asides hasides, h.markers]
  marked := by rw [marksLeft_append_asides hasides, h.marked]
  listVisible := h.listVisible
  tally := by rw [lastTally_append_asides hasides, h.tally]

/-- An update leaves the issues of its list on all surfaces, if only its own markers are left. -/
theorem of_marksLeft {old new : List Marker} {l : IssueList} {left : Float}
    (hlength : new.length = l.shown.length)
    (hleft : marksLeft (cs ++ IssueDisplay.updateCalls old l new left) =
      IssueDisplay.newMarks l new) :
    Shows (cs ++ IssueDisplay.updateCalls old l new left) ⟨new, l.tally.total != 0⟩
      l.shown where
  notes := by
    rw [IssueDisplay.lastNotes_updateCalls]
    congr 2
    funext x
    rw [Diagnostic.note, Diagnostic.textRow_eq]
  entries := by
    rw [IssueDisplay.lastEntries_updateCalls]
    rfl
  markers := by rw [hleft, IssueDisplay.map_fst_newMarks hlength]
  marked := by
    rw [hleft, IssueDisplay.map_snd_newMarks hlength]
    simp only [Diagnostic.rowSpan_eq]
  listVisible := by
    rw [l.tally_eq, IssueTally.total_ofList, bne_iff_ne, ne_eq, List.length_eq_zero_iff]
  tally := by
    rw [IssueDisplay.lastTally_updateCalls, IssueDisplay.tallyCue, l.tally_eq,
      IssueTally.total_ofList]
    simp only [List.length_eq_zero_iff]

/-- Whatever was shown before, an update leaves the issues of its list on all surfaces. -/
theorem of_update {l : IssueList} {new : List Marker} {left : Float} (h : MarkersKept cs v)
    (hlength : new.length = l.shown.length)
    (hfresh : (namesMade (cs ++ IssueDisplay.updateCalls v.markers l new left)).Nodup) :
    Shows (cs ++ IssueDisplay.updateCalls v.markers l new left) ⟨new, l.tally.total != 0⟩
      l.shown :=
  of_marksLeft hlength (h.marksLeft_append_updateCalls hfresh)

end Shows

/-! ### What a turn does to the surfaces -/

/-- What a turn may do to the issues that are shown. -/
inductive Refresh (h : Happening F) (s s' : PlayState) (v : IssueDisplay) (cs : List Call) :
    IssueDisplay → Prop where
  /-- The issues are left alone. No session is started in this way. -/
  | aside (isStart : h.isStart = false) (calls : ∀ c ∈ cs, c.isAside)
      (arrived : s'.issues.arrived = s.issues.arrived) :
      Refresh h s s' v cs v
  /-- All surfaces are updated. -/
  | update (pre post : List Call) (new : List Marker) (left : Float)
      (calls : cs = pre ++ IssueDisplay.updateCalls v.markers s'.issues new left ++ post)
      (before : ∀ c ∈ pre, c.isAside) (after : ∀ c ∈ post, c.isAside)
      (length : new.length = s'.issues.shown.length) :
      Refresh h s s' v cs ⟨new, s'.issues.tally.total != 0⟩

namespace Director

theorem isAside_of_mem_failureCalls {x : Diagnostic} : ∀ c ∈ failureCalls x, c.isAside := by
  intro c hc
  rcases failureCalls_cases x with hx | hx <;> rw [hx] at hc
  · exact absurd hc List.not_mem_nil
  · obtain rfl := List.mem_singleton.mp hc
    rfl

theorem isAside_of_mem_stopCalls {s : PlayState} : ∀ c ∈ stopCalls s, c.isAside := by
  intro c hc
  rcases stopCalls_cases s with hs | hs <;> rw [hs] at hc
  · exact absurd hc List.not_mem_nil
  · obtain rfl := List.mem_singleton.mp hc
    rfl

theorem Sequel.isAside {s s' : PlayState} {tail : List Call} (h : Sequel s s' tail) :
    ∀ c ∈ tail, c.isAside := by
  cases h with
  | sent => simp
  | lost e => simp [Call.isAside]

theorem Sequel.isAside_cons {s s' : PlayState} {r : Request} {tail : List Call}
    (h : Sequel s s' tail) : ∀ c ∈ Call.send r :: tail, c.isAside := by
  intro c hc
  rcases List.mem_cons.mp hc with rfl | hc
  · rfl
  · exact h.isAside c hc

end Director

/-- A step leaves all surfaces alone, or updates all of them. -/
theorem Step.refresh {h : Happening F} {s s' : PlayState} {v v' : IssueDisplay} {cs : List Call}
    (step : Step h s v cs s' v') : Refresh h s s' v cs v' := by
  cases step with
  | still isStart unheard => exact .aside isStart (by simp) rfl
  | @start log content _ tail isStart sequel =>
    have hissues : s'.issues = s.issues.clear := sequel.issues_eq
    let first := Director.stopCalls s ++ [.cue .turnPage]
    have hfirst : ∀ c ∈ first, c.isAside := by
      intro c hc
      rcases List.mem_append.mp hc with hc | hc
      · exact Director.isAside_of_mem_stopCalls c hc
      · obtain rfl := List.mem_singleton.mp hc
        rfl
    have hshown : s'.issues.shown = [] := by simp [hissues]
    have hvisible : (s'.issues.tally.total != 0) = false := by
      simp [IssueList.tally_eq, hshown, IssueTally.total_ofList]
    have hcalls : Director.openingCalls s v ++ .send (.run content (s.session + 1)) :: tail =
        first ++ IssueDisplay.updateCalls v.markers s'.issues [] 0 ++
          .send (.run content (s.session + 1)) :: tail := by
      rw [hissues, IssueDisplay.updateCalls_clear]
      simp [first, Director.openingCalls]
    have hupdate : Refresh h s s' v _ _ := .update first _ [] 0 hcalls hfirst sequel.isAside_cons
      (by rw [hshown]; rfl)
    rw [hvisible] at hupdate
    exact hupdate
  | select n p selected running point shown offered sequel =>
    have harrived := congrArg IssueList.arrived sequel.issues_eq
    exact .aside (by rw [selected]; rfl) sequel.isAside_cons harrived
  | visit asked =>
    refine .aside (by rw [asked]; rfl) (fun c hc => ?_) (by simp)
    obtain ⟨x, -, rfl⟩ := Option.map_eq_some_iff.mp (Option.mem_toList.mp hc)
    rfl
  | centre left asked => exact .aside (by rw [asked]; rfl) (by simp [Call.isAside]) rfl
  | say text heard => exact .aside heard.isStart_eq (by simp [Call.isAside]) rfl
  | repeated x heard known => exact .aside heard.isStart_eq Director.isAside_of_mem_failureCalls rfl
  | reported x issues new left heard unknown added length =>
    refine .update (Director.failureCalls x) [] new left ?_
      Director.isAside_of_mem_failureCalls (by simp) length
    rw [List.append_nil]
  | absorb c heard replayed => exact .aside heard.isStart_eq (by simp) rfl
  | offer c heard shown => exact .aside heard.isStart_eq (by simp [Call.isAside]) rfl
  | rest heard noneDue => exact .aside heard.isStart_eq (by simp [Call.isAside]) rfl
  | replay n heard due sequel =>
    refine .aside heard.isStart_eq (fun c hc => ?_) (congrArg IssueList.arrived sequel.issues_eq)
    rcases List.mem_cons.mp hc with rfl | hc
    · rfl
    · rcases List.mem_cons.mp hc with rfl | hc
      · rfl
      · exact sequel.isAside_cons c hc
  | conclude phase text termination heard final =>
    refine .aside ?_ (by simp [Call.isAside]) rfl
    rcases heard with heard | heard <;> exact heard.isStart_eq

/-! ### What was reported -/

/-- The diagnostic that is reported in the current session of a state before it ended. -/
def Happening.report? (s : PlayState) : Happening F → Option Diagnostic
  | .reply ⟨session, .diagnostic x⟩ =>
    if session = s.session ∧ s.phase.isFinal = false then some x else none
  | _ => none

/-- The diagnostics reported in some turns, each in its session before that ended. -/
def reports (ts : List (Turn F)) : List Diagnostic :=
  ts.filterMap fun t => t.happening.report? t.before

theorem reports_append_singleton (ts : List (Turn F)) (t : Turn F) :
    reports (ts ++ [t]) = reports ts ++ (t.happening.report? t.before).toList := by
  rw [reports, List.filterMap_append, reports]
  cases h : t.happening.report? t.before <;> simp [h]

theorem Happening.report?_of_isStart {h : Happening F} {s : PlayState} (hstart : h.isStart = true) :
    h.report? s = none := by
  cases h with
  | order o => rfl
  | reply r => simp [isStart] at hstart
  | change f => rfl

theorem Heard.report?_eq {h : Happening F} {s : PlayState} {e : Event} (heard : Heard h s e) :
    h.report? s = match e with
      | .diagnostic x => some x
      | _ => none := by
  obtain ⟨rfl, hrunning⟩ := heard
  cases e <;> simp [Happening.report?, hrunning, Phase.isFinal]

/-- Only a running session hears a report. -/
theorem Heard.of_report? {h : Happening F} {s : PlayState} {x : Diagnostic}
    (hbegun : s.phase ≠ .idle) (hreport : h.report? s = some x) :
    Heard h s (.diagnostic x) := by
  unfold Happening.report? at hreport
  split at hreport
  · split at hreport
    · obtain ⟨rfl, hfinal⟩ := ‹_ ∧ _›
      obtain rfl := Option.some.inj hreport
      refine ⟨rfl, ?_⟩
      cases hphase : s.phase <;> simp_all [Phase.isFinal]
    · contradiction
  · contradiction

/-- A step adds what is reported to the issues, unless it is there already. -/
theorem Step.arrived_eq {h : Happening F} {s s' : PlayState} {v v' : IssueDisplay} {cs : List Call}
    (step : Step h s v cs s' v') (hbegun : s.phase ≠ .idle) (hstart : h.isStart = false) :
    s'.issues.arrived =
      match h.report? s with
      | some x => if x ∈ s.issues.arrived then s.issues.arrived else s.issues.arrived ++ [x]
      | none => s.issues.arrived := by
  cases step with
  | still isStart unheard =>
    cases hreport : h.report? s with
    | none => rfl
    | some x => exact absurd (unheard _ (.of_report? hbegun hreport)) (by simp)
  | start log content isStart sequel => simp [isStart] at hstart
  | select n p selected running point shown offered sequel =>
    rw [sequel.issues_eq, selected]
    rfl
  | visit asked => rw [asked]; simp [Happening.report?]
  | centre left asked => rw [asked]; rfl
  | say text heard => rw [heard.report?_eq]
  | repeated x heard known => simp [heard.report?_eq, known]
  | reported x issues new left heard unknown added length =>
    simp [heard.report?_eq, unknown, added]
  | absorb c heard replayed => rw [heard.report?_eq]
  | offer c heard shown => rw [heard.report?_eq]
  | rest heard noneDue => rw [heard.report?_eq]
  | replay n heard due sequel => rw [heard.report?_eq, sequel.issues_eq]
  | conclude phase text termination heard final =>
    rcases heard with heard | heard <;> rw [heard.report?_eq]

/-- A step that starts a session leaves no issues, and the session has begun. -/
theorem Step.of_isStart {h : Happening F} {s s' : PlayState} {v v' : IssueDisplay} {cs : List Call}
    (step : Step h s v cs s' v') (hstart : h.isStart = true) :
    s'.phase ≠ .idle ∧ s'.issues.arrived = [] := by
  cases step with
  | start log content isStart sequel =>
    refine ⟨?_, by rw [sequel.issues_eq]; rfl⟩
    cases sequel <;> simp [Director.nextSession]
  | still isStart => simp [hstart] at isStart
  | select n p selected => rw [selected] at hstart; contradiction
  | visit asked => rw [asked] at hstart; contradiction
  | centre left asked => rw [asked] at hstart; contradiction
  | say text heard => rw [heard.isStart_eq] at hstart; contradiction
  | repeated x heard => rw [heard.isStart_eq] at hstart; contradiction
  | reported x issues new left heard => rw [heard.isStart_eq] at hstart; contradiction
  | absorb c heard => rw [heard.isStart_eq] at hstart; contradiction
  | offer c heard => rw [heard.isStart_eq] at hstart; contradiction
  | rest heard => rw [heard.isStart_eq] at hstart; contradiction
  | replay n heard => rw [heard.isStart_eq] at hstart; contradiction
  | conclude phase text termination heard =>
    rcases heard with heard | heard <;> rw [heard.isStart_eq] at hstart <;> contradiction

/-- Only a start begins the first session. -/
theorem Step.phase_eq_idle_iff {h : Happening F} {s s' : PlayState} {v v' : IssueDisplay}
    {cs : List Call} (step : Step h s v cs s' v') (hstart : h.isStart = false) :
    s'.phase = .idle ↔ s.phase = .idle := by
  cases step with
  | start log content isStart sequel => simp [isStart] at hstart
  | select n p selected running point shown offered sequel => cases sequel <;> simp [running]
  | replay n heard due sequel => cases sequel <;> simp [heard.2]
  | conclude phase text termination heard final =>
    have hrunning : s.phase = .running := by rcases heard with heard | heard <;> exact heard.2
    rw [hrunning]
    constructor
    · rintro rfl
      contradiction
    · intro h
      contradiction
  | _ => exact Iff.rfl

namespace Refresh

variable {h : Happening F} {s s' : PlayState} {v v' : IssueDisplay} {cs cs' : List Call}

theorem kept (refresh : Refresh h s s' v cs' v') (hkept : MarkersKept cs v)
    (hfresh : (namesMade (cs ++ cs')).Nodup) : MarkersKept (cs ++ cs') v' := by
  cases refresh with
  | aside isStart calls arrived => exact hkept.append_asides calls
  | update pre post new left calls before after length =>
    subst calls
    rw [← List.append_assoc, ← List.append_assoc] at hfresh ⊢
    have hbefore : MarkersKept (cs ++ pre) v := hkept.append_asides before
    rw [namesMade_append] at hfresh
    exact (hbefore.append_updateCalls length (List.nodup_append.mp hfresh).1 _).append_asides after

theorem shows (refresh : Refresh h s s' v cs' v') (hkept : MarkersKept cs v)
    (hfresh : (namesMade (cs ++ cs')).Nodup)
    (hshows : h.isStart = false → Shows cs v s.issues.shown) :
    Shows (cs ++ cs') v' s'.issues.shown := by
  cases refresh with
  | aside isStart calls arrived =>
    have hshown : s'.issues.shown = s.issues.shown := by
      rw [IssueList.shown, arrived, IssueList.shown]
    rw [hshown]
    exact (hshows isStart).append_asides calls
  | update pre post new left calls before after length =>
    subst calls
    rw [← List.append_assoc, ← List.append_assoc] at hfresh ⊢
    have hbefore : MarkersKept (cs ++ pre) v := hkept.append_asides before
    rw [namesMade_append] at hfresh
    exact (Shows.of_update hbefore length (List.nodup_append.mp hfresh).1).append_asides after

/-- The markers that are remembered were made in the turn, or they were remembered before and no
session is started. -/
theorem markers (refresh : Refresh h s s' v cs' v') {m : Marker} (hm : m ∈ v'.markers) :
    m ∈ namesMade cs' ∨ h.isStart = false ∧ m ∈ v.markers := by
  cases refresh with
  | aside isStart calls arrived => exact .inr ⟨isStart, hm⟩
  | update pre post new left calls before after length =>
    left
    rw [calls, namesMade_append, namesMade_append, IssueDisplay.namesMade_updateCalls length]
    exact List.mem_append_left _ (List.mem_append_right _ hm)

end Refresh

/-! ### Whole plays -/

/-- What the turns of every play keep about the issues, with the state behind them and what is
remembered of the surfaces: `past` are the turns before the current session, and `session` those of
it. -/
structure Surfaced (past session : List (Turn F)) (s : PlayState) (v : IssueDisplay) : Prop where
  kept : MarkersKept (callsOf (past ++ session)) v
  recent : ∀ m ∈ v.markers, m ∈ namesMade (callsOf session)
  shows : s.phase ≠ .idle → Shows (callsOf (past ++ session)) v s.issues.shown
  arrived : s.phase ≠ .idle → s.issues.arrived = (reports session).eraseDups

namespace Surfaced

variable {past session : List (Turn F)} {t : Turn F} {s' : PlayState} {v v' : IssueDisplay}

/-- A turn that starts a session. -/
theorem start (surfaced : Surfaced past session t.before v) (hstart : t.isStart = true)
    (step : Step t.happening t.before v t.calls s' v')
    (hfresh : (namesMade (callsOf (past ++ session) ++ t.calls)).Nodup) :
    Surfaced (past ++ session) [t] s' v' where
  kept := by
    rw [callsOf_append, callsOf_singleton]
    exact step.refresh.kept surfaced.kept hfresh
  recent m hm := by
    rw [callsOf_singleton]
    rcases step.refresh.markers hm with hm | ⟨hnot, -⟩
    · exact hm
    · exact absurd hstart (by rw [Turn.isStart, hnot]; decide)
  shows _ := by
    rw [callsOf_append, callsOf_singleton]
    refine step.refresh.shows surfaced.kept hfresh fun hnot => ?_
    exact absurd hstart (by rw [Turn.isStart, hnot]; decide)
  arrived _ := by
    have hreports : reports [t] = [] := by
      rw [← List.nil_append [t], reports_append_singleton,
        Happening.report?_of_isStart hstart]
      rfl
    rw [(step.of_isStart hstart).2, hreports, List.eraseDups_nil]

/-- A turn that belongs to the current session. -/
theorem next (surfaced : Surfaced past session t.before v) (hstart : t.isStart = false)
    (step : Step t.happening t.before v t.calls s' v')
    (hfresh : (namesMade (callsOf (past ++ session) ++ t.calls)).Nodup) :
    Surfaced past (session ++ [t]) s' v' where
  kept := by
    rw [← List.append_assoc, callsOf_append, callsOf_singleton]
    exact step.refresh.kept surfaced.kept hfresh
  recent m hm := by
    rw [callsOf_append, callsOf_singleton, namesMade_append, List.mem_append]
    rcases step.refresh.markers hm with hm | ⟨-, hm⟩
    · exact .inr hm
    · exact .inl (surfaced.recent m hm)
  shows hbegun := by
    have hbegun' : t.before.phase ≠ .idle := (step.phase_eq_idle_iff hstart).not.mp hbegun
    rw [← List.append_assoc, callsOf_append, callsOf_singleton]
    exact step.refresh.shows surfaced.kept hfresh fun _ => surfaced.shows hbegun'
  arrived hbegun := by
    have hbegun' : t.before.phase ≠ .idle := (step.phase_eq_idle_iff hstart).not.mp hbegun
    rw [step.arrived_eq hbegun' hstart, reports_append_singleton, surfaced.arrived hbegun']
    cases hreport : t.happening.report? t.before with
    | none => simp
    | some x => rw [Option.toList_some, eraseDups_append_singleton]

end Surfaced

variable [Frontend F]

theorem surfaced_run (front : F) (hs : List (Happening F))
    (hfresh : (namesMade ((Director.opening front).run hs).calls).Nodup) :
    Surfaced (pastTurns ((Director.opening front).turns hs))
      (sessionTurns ((Director.opening front).turns hs))
      ((Director.opening front).run hs).state ((Director.opening front).run hs).display := by
  induction hs using List.reverseRecOn with
  | nil =>
    refine ⟨⟨?_, ?_, rfl⟩, ?_, fun h => absurd rfl h, fun h => absurd rfl h⟩
    · exact fun m hm => by simp [marksTaken, pastTurns, splitSession] at hm
    · exact List.nodup_nil
    · exact fun m hm => by simp [Director.opening] at hm
  | append_singleton hs h ih =>
    let d := (Director.opening front).run hs
    rw [Director.run_append, Director.run_singleton, d.calls_happen,
      Director.calls_run_opening] at hfresh
    have hpast : (namesMade d.calls).Nodup := by
      rw [namesMade_append] at hfresh
      rw [Director.calls_run_opening]
      exact (List.nodup_append.mp hfresh).1
    have step := d.turn_step h
    rw [← pastTurns_append_sessionTurns ((Director.opening front).turns hs)] at hfresh
    rw [Director.turns_append, Director.turns_singleton, pastTurns_append_singleton,
      sessionTurns_append_singleton, Director.run_append, Director.run_singleton]
    cases hstart : (d.turn h).isStart with
    | true => exact (ih hpast).start hstart step hfresh
    | false => exact (ih hpast).next hstart step hfresh

/-- A play in which a session was started has begun. -/
theorem phase_ne_idle_of_isStart (front : F) {hs : List (Happening F)}
    (hstart : ∃ h ∈ hs, h.isStart = true) :
    ((Director.opening front).run hs).state.phase ≠ .idle := by
  induction hs using List.reverseRecOn with
  | nil => simp at hstart
  | append_singleton hs h ih =>
    let d := (Director.opening front).run hs
    have step := d.turn_step h
    rw [Director.run_append, Director.run_singleton]
    cases hlast : h.isStart with
    | true => exact (step.of_isStart hlast).1
    | false =>
      refine (step.phase_eq_idle_iff hlast).not.mpr (ih ?_)
      obtain ⟨g, hg, hgstart⟩ := hstart
      rcases List.mem_append.mp hg with hg | hg
      · exact ⟨g, hg, hgstart⟩
      · obtain rfl := List.mem_singleton.mp hg
        exact absurd hgstart (by rw [hlast]; decide)

/-! ### Stages give every name once -/

namespace Stage

theorem kept_names : Frontend.Kept fun r : Recorder Stage =>
    (namesMade r.calls).Nodup ∧ ∀ m ∈ namesMade r.calls, m < r.front.nextMarker where
  cue q r h := by
    have hnames : namesMade (Frontend.cue q r).calls = namesMade r.calls := by
      rw [Recorder.calls_cue, namesMade_append]
      exact List.append_nil _
    rw [hnames]
    exact h
  mark rows style r h := by
    have hnames : namesMade (Frontend.mark rows style r).1.calls =
        namesMade r.calls ++ [r.front.nextMarker] := by
      rw [Recorder.calls_mark, namesMade_append]
      rfl
    have hnext : (Frontend.mark rows style r).1.front.nextMarker = r.front.nextMarker + 1 := rfl
    rw [hnames, hnext, List.nodup_append]
    refine ⟨⟨h.1, List.pairwise_singleton _ _, ?_⟩, ?_⟩
    · intro m hm n hn
      obtain rfl := List.mem_singleton.mp hn
      exact Nat.ne_of_lt (h.2 m hm)
    · intro m hm
      rcases List.mem_append.mp hm with hm | hm
      · exact Nat.lt_succ_of_lt (h.2 m hm)
      · obtain rfl := List.mem_singleton.mp hm
        exact Nat.lt_succ_self _
  send q r h := by
    have hnames : namesMade (Frontend.send q r).1.calls = namesMade r.calls := by
      rw [Recorder.calls_send, namesMade_append]
      exact List.append_nil _
    rw [hnames]
    exact h

/-- A stage numbers its markers, so no two of them have the same name, as long as nothing else sets
the number back. -/
theorem nodup_namesMade (stage : Stage) (hs : List (Happening Stage))
    (hchange : ∀ f, .change f ∈ hs → ∀ s, s.nextMarker ≤ (f s).nextMarker) :
    (namesMade ((Director.opening stage).run hs).calls).Nodup := by
  suffices h : (namesMade ((Director.opening stage).run hs).calls).Nodup ∧
      ∀ m ∈ namesMade ((Director.opening stage).run hs).calls,
        m < ((Director.opening stage).run hs).front.front.nextMarker from h.1
  induction hs using List.reverseRecOn with
  | nil => exact ⟨List.nodup_nil, fun m hm => absurd hm List.not_mem_nil⟩
  | append_singleton hs h ih =>
    have hkept := ih fun f hf => hchange f (List.mem_append_left _ hf)
    rw [Director.run_append, Director.run_singleton]
    cases h with
    | order o => exact kept_names.follow hkept o
    | reply r => exact kept_names.receive hkept r
    | change f =>
      have hle := hchange f (List.mem_append_right _ (List.mem_singleton.mpr rfl))
      exact ⟨hkept.1, fun m hm => Nat.lt_of_lt_of_le (hkept.2 m hm) (hle _)⟩

end Stage

/-- **The issues that are shown are those of the session.** In every play in which a session was
started and no two markers were given the same name, the issues of the session are the diagnostics
reported in it before it ended, each of them once, in their stable order. All surfaces show these:
the notes, the entries, the markers that are left, the visibility of the list, and what is said
about their number. No marker was taken away twice, and none that is left was made before the
session. -/
theorem issues_shown_are_those_of_session (front : F) (hs : List (Happening F))
    (hstart : ∃ h ∈ hs, h.isStart = true)
    (hfresh : (namesMade ((Director.opening front).run hs).calls).Nodup) :
    let ts := (Director.opening front).turns hs
    let d := (Director.opening front).run hs
    (∀ D, StablySorted (reports (sessionTurns ts)).eraseDups D ↔ D = d.state.issues.shown) ∧
      Shows d.calls d.display d.state.issues.shown ∧ (marksTaken d.calls).Nodup ∧
      ∀ m ∈ d.display.markers, m ∉ namesMade (callsOf (pastTurns ts)) := by
  intro ts d
  have hbegun := phase_ne_idle_of_isStart front hstart
  have surfaced := surfaced_run front hs hfresh
  have hcalls : callsOf (pastTurns ts ++ sessionTurns ts) = d.calls := by
    rw [pastTurns_append_sessionTurns, Director.calls_run_opening]
  have hkept : MarkersKept d.calls d.display := hcalls ▸ surfaced.kept
  have hshows : Shows d.calls d.display d.state.issues.shown := hcalls ▸ surfaced.shows hbegun
  refine ⟨fun D => ?_, hshows, hkept.once, fun m hm hpast => ?_⟩
  · rw [← surfaced.arrived hbegun]
    exact d.state.issues.stablySorted_iff D
  · rw [← hcalls, callsOf_append, namesMade_append, List.nodup_append] at hfresh
    exact hfresh.2.2 m hpast m (surfaced.recent m hm) rfl

/-- A story is compiled twice on a stage, and both times it has the same error. -/
theorem issues_shown_after_second_compile :
    let hs : List (Happening Stage) :=
      [.order (.compile "->"), .reply ⟨1, .diagnostic ⟨.error, 3, "Missing target."⟩⟩,
        .order (.compile "->"), .reply ⟨2, .diagnostic ⟨.error, 3, "Missing target."⟩⟩,
        .reply ⟨2, .diagnostic ⟨.error, 3, "Missing target."⟩⟩]
    (∃ h ∈ hs, h.isStart = true) ∧
      (namesMade ((Director.opening ({} : Stage)).run hs).calls).Nodup ∧
      Shows ((Director.opening ({} : Stage)).run hs).calls
        ((Director.opening ({} : Stage)).run hs).display
        ((Director.opening ({} : Stage)).run hs).state.issues.shown := by
  intro hs
  have hstart : ∃ h ∈ hs, h.isStart = true := ⟨_, List.mem_cons_self, rfl⟩
  have hfresh := Stage.nodup_namesMade {} hs (by simp [hs])
  obtain ⟨-, hshows, -⟩ := issues_shown_are_those_of_session ({} : Stage) hs hstart hfresh
  exact ⟨hstart, hfresh, hshows⟩

end Playthrough
