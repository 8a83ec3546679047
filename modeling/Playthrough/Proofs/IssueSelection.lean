import Playthrough.Proofs.IssueRounds
import Playthrough.Proofs.Turn
import Playthrough.Rehearsal

/-!
# The selected issue when others arrive

The selection of an issue is a position in the order in which the issues are shown. An issue that
arrives leaves this position alone. In the shown order it stands somewhere behind the selected issue
or before it, and in the latter case the selected issue moves on by one place, so that another one
is found at the selected position.

The next selection may therefore lead to the issue that was selected before. It does so exactly if
one of the issues that arrived in between stands before that issue: if none does, the one behind it
is selected, and if several do, it has moved on past the next position.

## Main definitions

* `IssueList.grown` — a list after new issues arrived.
* `IssueList.selectedIssue` — the issue at the selected position.
* `Director.report`, `PlayState.news` — a diagnostic is reported, and what is new among several.

## Main results

* `StablySorted.idxOf_eq` — where an issue stands in the shown order.
* `IssueList.idxOf_shown_grown` — an issue moves on by the number of the new issues before it.
* `IssueList.Sound.selectNext_eq_iff` — when the same issue is selected twice.
* `Director.exists_acts_run` — what a play does with its issues.
* `selection_stays_in_place` — what becomes of the selected issue.
-/

namespace Playthrough

/-! ### Places in the shown order -/

variable {d x : Diagnostic} {xs ys : List Diagnostic}

/-- In an ordered list, a diagnostic stands behind those with smaller keys and those with its own
key that come earlier. -/
theorem idxOf_of_ordered (hys : ys.Pairwise fun x y => x.key ≤ y.key) (hd : d ∈ ys) :
    ys.idxOf d = ys.countP (·.key < d.key) + (ys.filter (·.key = d.key)).idxOf d := by
  induction ys with
  | nil => exact absurd hd List.not_mem_nil
  | cons y ys ih =>
    rw [List.pairwise_cons] at hys
    by_cases hyd : y = d
    · subst hyd
      have hnone : (y :: ys).countP (·.key < y.key) = 0 := by
        simpa using hys.1
      simp [hnone]
    · have hmem : d ∈ ys := (List.mem_cons.mp hd).resolve_left fun h => hyd h.symm
      rw [List.idxOf_cons_ne _ hyd, ih hys.2 hmem]
      rcases (hys.1 d hmem).lt_or_eq with hlt | heq
      · simp [hlt, hlt.ne]
        omega
      · simp [heq, List.idxOf_cons_ne _ hyd]
        omega

theorem StablySorted.idxOf_eq (h : StablySorted xs ys) (hd : d ∈ xs) :
    ys.idxOf d = xs.countP (·.key < d.key) + (xs.filter (·.key = d.key)).idxOf d := by
  rw [idxOf_of_ordered h.ordered (h.perm.mem_iff.mpr hd), h.perm.countP_eq, h.stable]

namespace IssueList

variable {l : IssueList} {i : ℕ}

/-- The list after new issues arrived. -/
def grown (l : IssueList) (xs : List Diagnostic) : IssueList :=
  { l with arrived := l.arrived ++ xs }

@[simp] theorem grown_nil : l.grown [] = l := by
  rw [grown, List.append_nil]

/-- Issues that arrived in order are shown as they arrived. -/
theorem shown_of_pairwise (h : l.arrived.Pairwise (Diagnostic.precedes · ·)) :
    l.shown = l.arrived :=
  List.mergeSort_of_pairwise h

/-- An issue moves on by the number of the new issues that stand before it. -/
theorem idxOf_shown_grown (hd : d ∈ l.arrived) :
    (l.grown xs).shown.idxOf d = l.shown.idxOf d + xs.countP (·.key < d.key) := by
  have hnew : StablySorted (l.arrived ++ xs) (l.grown xs).shown := .mergeSort _
  have hold : StablySorted l.arrived l.shown := .mergeSort _
  have hmem : d ∈ l.arrived.filter (·.key = d.key) := by simpa using hd
  rw [hnew.idxOf_eq (List.mem_append_left xs hd), hold.idxOf_eq hd, List.countP_append,
    List.filter_append, List.idxOf_append_of_mem hmem, Nat.add_right_comm]

theorem Sound.getElem?_shown_iff (h : l.Sound) :
    l.shown[i]? = some d ↔ d ∈ l.arrived ∧ l.shown.idxOf d = i := by
  constructor
  · intro hi
    obtain ⟨hlt, rfl⟩ := List.getElem?_eq_some_iff.mp hi
    exact ⟨l.shown_perm.mem_iff.mp (List.getElem_mem hlt), h.nodup_shown.idxOf_getElem i hlt⟩
  · rintro ⟨hd, rfl⟩
    have hmem : d ∈ l.shown := l.shown_perm.mem_iff.mpr hd
    rw [List.getElem?_eq_getElem (List.idxOf_lt_length_of_mem hmem), List.getElem_idxOf]

/-- The only place where an issue is shown after new ones arrived. -/
theorem Sound.getElem?_shown_grown (h : l.Sound) (hgrown : (l.grown xs).Sound)
    (hi : l.shown[i]? = some d) {j : ℕ} :
    (l.grown xs).shown[j]? = some d ↔ j = i + xs.countP (·.key < d.key) := by
  obtain ⟨hd, hplace⟩ := h.getElem?_shown_iff.mp hi
  have hd' : d ∈ (l.grown xs).arrived := List.mem_append_left xs hd
  rw [hgrown.getElem?_shown_iff, and_iff_right hd', idxOf_shown_grown hd, hplace, eq_comm]

/-! ### The selected issue -/

/-- The issue at the selected position, if there is one. -/
def selectedIssue (l : IssueList) : Option Diagnostic :=
  l.selected.bind (l.shown[·]?)

theorem selectedIssue_eq_some_iff :
    l.selectedIssue = some d ↔ ∃ i, l.selected = some i ∧ l.shown[i]? = some d :=
  Option.bind_eq_some_iff

/-- The next issue is the selected one from then on. -/
theorem selectedIssue_selectNext (hd : l.selectNext.2 = some d) :
    l.selectNext.1.selectedIssue = some d := by
  have hsize : l.size ≠ 0 := by
    intro hzero
    rw [selectNext_snd_eq_none_iff.mpr hzero] at hd
    exact Option.some_ne_none d hd.symm
  rw [selectNext_of_size_ne_zero hsize] at hd ⊢
  exact hd

/-- A new issue moves the selected one if it stands before it. -/
theorem Sound.shown_add (h : l.Sound) (hi : l.shown[i]? = some d) (x : Diagnostic) :
    ((l.add x).1.shown[i]? = some d ↔ x ∈ l.arrived ∨ d.key ≤ x.key) ∧
      (¬ (x ∈ l.arrived ∨ d.key ≤ x.key) → (l.add x).1.shown[i + 1]? = some d) := by
  by_cases hx : x ∈ l.arrived
  · simp [add_of_mem hx, hx, hi]
  · have hadd : (l.add x).1 = l.grown [x] := congrArg Prod.fst (add_of_notMem hx)
    have hgrown : (l.grown [x]).Sound := hadd ▸ h.add x
    rw [hadd, h.getElem?_shown_grown hgrown hi, h.getElem?_shown_grown hgrown hi]
    by_cases hkey : x.key < d.key
    · simp [hx, hkey]
    · simp [hx, hkey, not_lt.mp hkey]

/-- After new issues arrived, the selection moves on to the issue that was selected before exactly
if one of them stands before it. -/
theorem Sound.selectNext_eq_iff (h : l.Sound) (hgrown : (l.grown xs).Sound)
    (hd : l.selectedIssue = some d) (hsize : 1 < (l.grown xs).size) :
    ∃ e, (l.grown xs).selectNext.2 = some e ∧ (e = d ↔ xs.countP (·.key < d.key) = 1) := by
  obtain ⟨i, hselected, hi⟩ := selectedIssue_eq_some_iff.mp hd
  have hplace (j : ℕ) : (l.grown xs).shown[j]? = some d ↔ j = i + xs.countP (·.key < d.key) :=
    h.getElem?_shown_grown hgrown hi
  have hnext : (l.grown xs).nextPosition < (l.grown xs).shown.length := by
    rw [length_shown]
    exact (l.grown xs).nextPosition_lt (by omega)
  refine ⟨(l.grown xs).shown[(l.grown xs).nextPosition], ?_, ?_⟩
  · rw [selectNext_of_size_ne_zero (by omega)]
    exact List.getElem?_eq_getElem hnext
  · rw [← Option.some_inj, ← List.getElem?_eq_getElem hnext, hplace, nextPosition,
      show (l.grown xs).selected = some i from hselected]
    have hlt : i + xs.countP (·.key < d.key) < (l.grown xs).size := by
      have hbehind := (List.getElem?_eq_some_iff.mp ((hplace _).mpr rfl)).1
      rwa [length_shown] at hbehind
    dsimp only
    split_ifs with hlast <;> omega

/-! ### Issues that are added one after the other -/

theorem acts_map_add (l : IssueList) (xs : List Diagnostic) :
    l.acts (xs.map .add) = l.grown (xs.filter (· ∉ l.arrived)).eraseDups := by
  induction xs using List.reverseRecOn with
  | nil => exact grown_nil.symm
  | append_singleton xs x ih =>
    rw [List.map_append, acts_append, ih, List.map_singleton, acts_singleton, act,
      List.filter_append]
    by_cases hx : x ∈ l.arrived
    · rw [add_of_mem (List.mem_append_left _ hx)]
      simp [hx]
    · rw [show [x].filter (· ∉ l.arrived) = [x] by simp [hx], eraseDups_append_singleton]
      by_cases hrepeated : x ∈ (xs.filter (· ∉ l.arrived)).eraseDups
      · rw [if_pos hrepeated, add_of_mem (List.mem_append_right _ hrepeated)]
      · rw [if_neg hrepeated, add_of_notMem fun h => (List.mem_append.mp h).elim hx hrepeated]
        simp [grown]

end IssueList

/-! ### Issues of a play -/

/-- What a step does with the issues is done by some acts. -/
theorem Step.exists_acts {F : Type} {h : Happening F} {s s' : PlayState} {v v' : IssueDisplay}
    {cs : List Call} (step : Step h s v cs s' v') : ∃ as, s'.issues = s.issues.acts as := by
  cases step with
  | start log content isStart sequel => exact ⟨[.clear], sequel.issues_eq⟩
  | select n p selected running point shown offered sequel => exact ⟨[], sequel.issues_eq⟩
  | visit asked => exact ⟨[.selectNext], rfl⟩
  | reported x issues new left heard unknown added =>
    refine ⟨[.add x], ?_⟩
    rw [added, IssueList.acts_singleton, IssueList.act, IssueList.add_of_notMem unknown]
  | replay n heard due sequel => exact ⟨[], sequel.issues_eq⟩
  | still | centre | say | repeated | absorb | offer | rest | conclude => exact ⟨[], rfl⟩

namespace Director

variable {F : Type} [Frontend F]

/-- The issues of a play are a list that some acts made of a new one. -/
theorem exists_acts_run (front : F) (hs : List (Happening F)) :
    ∃ as, ((opening front).run hs).state.issues = ({} : IssueList).acts as := by
  induction hs using List.reverseRecOn with
  | nil => exact ⟨[], rfl⟩
  | append_singleton hs h ih =>
    obtain ⟨as, has⟩ := ih
    obtain ⟨bs, hbs⟩ := (((opening front).run hs).turn_step h).exists_acts
    refine ⟨as ++ bs, ?_⟩
    rw [run_append, run_singleton, hbs, has, IssueList.acts_append]

theorem sound_run (front : F) (hs : List (Happening F)) :
    ((opening front).run hs).state.issues.Sound := by
  obtain ⟨as, has⟩ := exists_acts_run front hs
  exact has ▸ IssueList.sound_acts as

end Director

/-- The interpreter reports a diagnostic of the current session. -/
def Director.report {F : Type} (d : Director (Recorder F)) (x : Diagnostic) : Happening F :=
  .reply ⟨d.state.session, .diagnostic x⟩

/-- The new issues among some reported diagnostics: they are heard while the story is running. -/
def PlayState.news (s : PlayState) (xs : List Diagnostic) : List Diagnostic :=
  if s.phase = .running then (xs.filter (· ∉ s.issues.arrived)).eraseDups else []

namespace Director

variable {F : Type} [Frontend F] (d : Director (Recorder F))

theorem state_report (x : Diagnostic) :
    (d.happen (d.report x)).1.state =
      { d.state with
        issues := if d.state.phase = .running then (d.state.issues.add x).1
          else d.state.issues } := by
  by_cases hrunning : d.state.phase = .running
  · rw [report, happen, d.receive_of_hears ⟨hrunning, rfl⟩, if_pos hrunning]
    by_cases hx : x ∈ d.state.issues.arrived
    · rw [IssueList.add_of_mem hx]
      exact (d.addDiagnostic_of_mem hx).1
    · obtain ⟨issues, new, left, rfl, -, hstate, -, -⟩ := d.addDiagnostic_of_not_mem hx
      rw [IssueList.add_of_notMem hx]
      exact hstate
  · rw [report, happen, d.receive_of_not_hears fun h => hrunning h.1, if_neg hrunning]

/-- Reported diagnostics are added one after the other while the story is running, and change
nothing else. -/
theorem state_run_reports (xs : List Diagnostic) :
    (d.run (xs.map d.report)).state =
      { d.state with
        issues := if d.state.phase = .running then d.state.issues.acts (xs.map .add)
          else d.state.issues } := by
  induction xs using List.reverseRecOn with
  | nil => simp
  | append_singleton xs x ih =>
    have hreport : d.report x = (d.run (xs.map d.report)).report x := by
      rw [report, report, ih]
    rw [List.map_append, run_append, List.map_singleton, run_singleton, hreport, state_report, ih]
    by_cases hrunning : d.state.phase = .running <;> simp [hrunning, IssueList.act]

/-- What becomes of the issues when one is visited and diagnostics are reported after that. -/
theorem issues_run_visit_reports (xs : List Diagnostic) :
    (d.run (.order .nextIssue :: xs.map d.report)).state.issues =
      d.state.issues.selectNext.1.grown (d.state.news xs) := by
  let visited : Director (Recorder F) := d.visitNextIssue.1
  have hvisited : visited.state = { d.state with issues := d.state.issues.selectNext.1 } :=
    d.visitNextIssue_eq.1
  have hreport : d.report = visited.report := by
    funext x
    rw [report, report, hvisited]
  have hlater : d.run (.order .nextIssue :: xs.map d.report) = visited.run (xs.map d.report) := rfl
  rw [hlater, hreport, state_run_reports, hvisited, PlayState.news]
  split_ifs
  · rw [IssueList.acts_map_add, IssueList.arrived_selectNext]
  · rw [IssueList.grown_nil]

theorem calls_turn_nextIssue :
    (d.turn (.order .nextIssue)).calls =
      (d.state.issues.selectNext.2.map fun x => Call.cue (.moveTo x.line 0)).toList :=
  List.append_cancel_left ((d.calls_happen _).symm.trans d.visitNextIssue_eq.2.2)

end Director

/-- An issue that is added leaves the selected position alone. The selected issue is still there if
the added one is not new or does not come before it in the order; otherwise, it is found one place
further on.

When the next issue is visited twice and only diagnostics are reported in between, the same issue is
visited again, if there are others, exactly if one of the new ones comes before it. -/
theorem selection_stays_in_place {F : Type} [Frontend F] :
    (∀ (as : List IssueList.Act) (i : ℕ) (d x : Diagnostic),
      let l := ({} : IssueList).acts as
      l.selected = some i → l.shown[i]? = some d →
        (l.add x).1.selected = some i ∧
        ((l.add x).1.shown[i]? = some d ↔ x ∈ l.arrived ∨ d.key ≤ x.key) ∧
        (¬ (x ∈ l.arrived ∨ d.key ≤ x.key) → (l.add x).1.shown[i + 1]? = some d)) ∧
    ∀ (front : F) (hs : List (Happening F)) (d : Diagnostic) (xs : List Diagnostic),
      let play := (Director.opening front).run hs
      let later := play.run (.order .nextIssue :: xs.map play.report)
      play.state.issues.selectNext.2 = some d → 1 < later.state.issues.size →
        (play.turn (.order .nextIssue)).calls = [.cue (.moveTo d.line 0)] ∧
        later.state.issues.arrived = play.state.issues.arrived ++ play.state.news xs ∧
        ∃ e, later.state.issues.selectNext.2 = some e ∧
          (later.turn (.order .nextIssue)).calls = [.cue (.moveTo e.line 0)] ∧
          (e = d ↔ (play.state.news xs).countP (·.key < d.key) = 1) := by
  constructor
  · intro as i d x l hselected hi
    refine ⟨?_, (IssueList.sound_acts as).shown_add hi x⟩
    rw [← hselected, IssueList.add]
    split_ifs <;> rfl
  · intro front hs d xs play later hd hsize
    have hsound : play.state.issues.Sound := Director.sound_run front hs
    have hsoundLater : later.state.issues.Sound := by
      have h := Director.sound_run front (hs ++ .order .nextIssue :: xs.map play.report)
      rwa [Director.run_append] at h
    have hlater := play.issues_run_visit_reports xs
    rw [hlater] at hsize hsoundLater
    obtain ⟨e, he, hiff⟩ := hsound.selectNext.selectNext_eq_iff hsoundLater
      (IssueList.selectedIssue_selectNext hd) hsize
    rw [← hlater] at he
    refine ⟨?_, ?_, e, he, ?_, hiff⟩
    · rw [Director.calls_turn_nextIssue, hd]
      rfl
    · rw [hlater, IssueList.grown, IssueList.arrived_selectNext]
    · rw [Director.calls_turn_nextIssue, he]
      rfl

/-- A warning is visited, and stays in its place when a later one arrives. An error moves it on by
one place, and it is visited again. -/
theorem warning_is_visited_again_after_error :
    let a : Diagnostic := ⟨.warning, 5, "a"⟩
    let b : Diagnostic := ⟨.warning, 10, "b"⟩
    let c : Diagnostic := ⟨.error, 1, "c"⟩
    let d : Diagnostic := ⟨.warning, 7, "d"⟩
    let l := ({} : IssueList).acts [.add a, .add b, .selectNext]
    let hs : List (Happening Stage) :=
      [.order (.compile "->"), .reply ⟨1, .diagnostic a⟩, .reply ⟨1, .diagnostic b⟩]
    let play := (Director.opening ({} : Stage)).run hs
    let later := play.run (.order .nextIssue :: [d, c].map play.report)
    l.selected = some 0 ∧ l.shown[0]? = some a ∧
      (l.add d).1.shown[0]? = some a ∧ (l.add c).1.shown[1]? = some a ∧
      play.state.issues.selectNext.2 = some a ∧ 1 < later.state.issues.size ∧
      (play.turn (.order .nextIssue)).calls = [.cue (.moveTo 5 0)] ∧
      (later.turn (.order .nextIssue)).calls = [.cue (.moveTo 5 0)] := by
  intro a b c d l hs play later
  have hshown : l.shown[0]? = some a := by
    rw [IssueList.shown_of_pairwise (by decide)]
    rfl
  have hplay : play.state.issues = { arrived := [a, b] } := by decide +kernel
  have hnext : play.state.issues.selectNext.2 = some a := by
    rw [hplay, IssueList.selectNext_of_size_ne_zero (by decide),
      IssueList.shown_of_pairwise (by decide)]
    rfl
  have hnews : play.state.news [d, c] = [d, c] := by decide +kernel
  have hsize : 1 < later.state.issues.size := by
    rw [play.issues_run_visit_reports, hnews, IssueList.size, IssueList.grown,
      IssueList.arrived_selectNext, hplay]
    decide
  obtain ⟨hadd, hvisits⟩ := selection_stays_in_place (F := Stage)
  obtain ⟨-, hstays, -⟩ := hadd _ 0 a d rfl hshown
  obtain ⟨-, -, hmoves⟩ := hadd _ 0 a c rfl hshown
  obtain ⟨hvisit, -, e, -, hagain, he⟩ := hvisits {} hs a [d, c] hnext hsize
  have hsame : e = a := he.mpr (by rw [hnews]; decide)
  rw [hsame] at hagain
  exact ⟨rfl, hshown, hstays.mpr (.inr (by decide)), hmoves (by decide), hnext, hsize, hvisit,
    hagain⟩

/-- An error that arrives takes the place of a selected warning, which is selected next again. -/
theorem error_displaces_selected_warning :
    let a : Diagnostic := ⟨.warning, 5, "a"⟩
    let b : Diagnostic := ⟨.warning, 10, "b"⟩
    let c : Diagnostic := ⟨.error, 1, "c"⟩
    let l := ({} : IssueList).acts [.add a, .add b, .selectNext]
    let l' := (l.add c).1
    (({} : IssueList).acts [.add a, .add b]).selectNext.2 = some a ∧
      l.selectedIssue = some a ∧ l'.selectedIssue = some c ∧ l'.selectNext.2 = some a ∧
      1 < l'.size := by
  intro a b c l l'
  have hnew : ({} : IssueList).acts [.add a, .add b] = { arrived := [a, b] } := rfl
  have hl : l = { arrived := [a, b], selected := some 0 } := rfl
  have hl' : l' = { arrived := [a, b, c], selected := some 0 } := rfl
  have hshown : [a, b].mergeSort Diagnostic.precedes = [a, b] := by
    simp [a, b, List.mergeSort, Diagnostic.precedes, Severity.rank]
  have hshown' : [a, b, c].mergeSort Diagnostic.precedes = [c, a, b] := by
    simp [a, b, c, List.mergeSort, Diagnostic.precedes, Severity.rank]
  rw [hl', hl, hnew]
  simp [IssueList.selectedIssue, IssueList.selectNext, IssueList.nextPosition, IssueList.size,
    IssueList.shown, hshown, hshown']

end Playthrough
