import Playthrough.Proofs.ExactDoubles
import Playthrough.Proofs.IssueSurfaces
import Playthrough.Rehearsal

/-!
# What an update of the issues depends on

A list of issues, what is shown of it, and a front end: issues come and go in the list, and every
now and then what is shown is brought up to date. Between two updates the list may have changed
several times, and it may have been cleared. Still, an update shows what a new display would show of
the list on a new front end, up to the names of the markers. Until the next update nothing of this
changes, except that the list of issues can be moved to the middle of a window that has another
width by now.

## Main definitions

* `IssuePanel`, `IssuePanel.Act` — a list, its display and a front end, and what is done with them.
* `SameSurfaces` — two runs show the same, up to the names of the markers.
* `TakenInOrder` — markers are taken away after they were made.

## Main results

* `IssuePanel.kept_acts` — what is kept about the markers.
* `IssuePanel.shows_acts` — what is shown is the list of the last update.
* `update_depends_on_list_only` — an update shows what a new display would show.
-/

namespace Playthrough

/-! ### A list of issues and its display -/

/-- A list of issues, what is shown of it, and the front end it is shown on. -/
structure IssuePanel (F : Type) where
  issues : IssueList := {}
  display : IssueDisplay := {}
  front : Recorder F

namespace IssuePanel

variable {F : Type} [Frontend F]

/-- What is done with a list of issues and its display. -/
inductive Act (F : Type) where
  | add (x : Diagnostic)
  | clear
  | update
  /-- The list of issues is moved to the middle of the window. -/
  | centre
  /-- The front end changes by itself, as a window does that gets another width. -/
  | change (f : F → F)

/-- The panel after an act. -/
def act (p : IssuePanel F) : Act F → IssuePanel F
  | .add x => { p with issues := (p.issues.add x).1 }
  | .clear => { p with issues := p.issues.clear }
  | .update =>
    let (display, front) := p.display.update p.issues p.front
    { p with display, front }
  | .centre => { p with front := p.display.centre p.front }
  | .change f => { p with front := { p.front with front := f p.front.front } }

/-- The panel after some acts. -/
def acts (p : IssuePanel F) (as : List (Act F)) : IssuePanel F :=
  as.foldl act p

/-- A panel without issues on a front end. -/
def opening (front : F) : IssuePanel F where
  front := ⟨front, []⟩

/-- The calls made to the front end. -/
def calls (p : IssuePanel F) : List Call :=
  p.front.calls

variable (p : IssuePanel F) (as : List (Act F)) (a : Act F)

@[simp] theorem acts_append_singleton : p.acts (as ++ [a]) = (p.acts as).act a :=
  List.foldl_append

theorem acts_append_cons (bs : List (Act F)) :
    p.acts (as ++ a :: bs) = ((p.acts as).act a).acts bs :=
  List.foldl_append

theorem calls_act_centre :
    (p.act .centre).calls = p.calls ++
      if p.display.listVisible then
        [.cue (.placeList (IssueDisplay.centredLeft p.front.front))]
      else [] := by
  cases h : p.display.listVisible with
  | true =>
    simp [calls, act, IssueDisplay.centre, h, IssueDisplay.centredLeft, Frontend.windowWidth,
      Frontend.listWidth]
  | false => simp [calls, act, IssueDisplay.centre, h]

/-- What an act other than an update does: it leaves the issues alone that are shown. -/
theorem act_of_ne_update (h : a ≠ .update) :
    (p.act a).display = p.display ∧
      ∃ cs, (p.act a).calls = p.calls ++ cs ∧ ∀ c ∈ cs, c.isAside := by
  cases a with
  | add x => exact ⟨rfl, [], (List.append_nil _).symm, by simp⟩
  | clear => exact ⟨rfl, [], (List.append_nil _).symm, by simp⟩
  | update => exact absurd rfl h
  | centre =>
    refine ⟨rfl, _, p.calls_act_centre, fun c hc => ?_⟩
    split at hc
    · obtain rfl := List.mem_singleton.mp hc
      rfl
    · exact absurd hc List.not_mem_nil
  | change f => exact ⟨rfl, [], (List.append_nil _).symm, by simp⟩

/-- What an update does. -/
theorem act_update :
    ∃ new left, new.length = p.issues.shown.length ∧
      (p.act .update).display = ⟨new, p.issues.tally.total != 0⟩ ∧
      (p.act .update).calls =
        p.calls ++ IssueDisplay.updateCalls p.display.markers p.issues new left :=
  p.display.update_eq p.issues p.front

/-- The calls of an act come after those made before. -/
theorem prefix_calls_act : p.calls <+: (p.act a).calls := by
  by_cases h : a = .update
  · obtain ⟨new, left, -, -, hcalls⟩ := p.act_update
    rw [h, hcalls]
    exact List.prefix_append _ _
  · obtain ⟨-, cs, hcalls, -⟩ := p.act_of_ne_update a h
    rw [hcalls]
    exact List.prefix_append _ _

end IssuePanel

/-! ### Markers -/

/-- Every marker that is taken away in some calls was made before. -/
def TakenInOrder (cs : List Call) : Prop :=
  ∀ pre m post, cs = pre ++ .cue (.unmark m) :: post → m ∈ namesMade pre

theorem TakenInOrder.append {cs cs' : List Call} (h : TakenInOrder cs)
    (htaken : ∀ m ∈ marksTaken cs', m ∈ namesMade cs) : TakenInOrder (cs ++ cs') := by
  intro pre m post heq
  rcases List.append_eq_append_iff.mp heq with ⟨pre', rfl, hcs'⟩ | ⟨post', hcs, hpost⟩
  · -- the marker is taken away in the new calls
    rw [namesMade_append]
    refine List.mem_append_left _ (htaken m ?_)
    rw [hcs', marksTaken_append]
    exact List.mem_append_right _ List.mem_cons_self
  · cases post' with
    | nil =>
      rw [List.append_nil] at hcs
      rw [← hcs]
      refine htaken m ?_
      rw [List.nil_append] at hpost
      rw [← hpost]
      exact List.mem_cons_self
    | cons c post' =>
      obtain ⟨rfl, -⟩ := List.cons.inj hpost
      exact h pre m post' hcs

namespace IssuePanel

variable {F : Type} [Frontend F]

/-- What the acts of every panel keep about the markers. -/
structure MarkersInOrder (p : IssuePanel F) : Prop where
  kept : MarkersKept p.calls p.display
  inOrder : TakenInOrder p.calls

theorem MarkersInOrder.act {p : IssuePanel F} (h : p.MarkersInOrder) (a : Act F)
    (hfresh : (namesMade (p.act a).calls).Nodup) : (p.act a).MarkersInOrder := by
  by_cases ha : a = .update
  · obtain ⟨new, left, hlength, hdisplay, hcalls⟩ := p.act_update
    rw [ha] at hfresh ⊢
    constructor
    · rw [hdisplay]
      rw [hcalls] at hfresh ⊢
      exact h.kept.append_updateCalls hlength hfresh _
    · rw [hcalls]
      refine h.inOrder.append fun m hm => ?_
      rw [IssueDisplay.marksTaken_updateCalls] at hm
      exact h.kept.mem_namesMade hm
  · obtain ⟨hdisplay, cs, hcalls, hasides⟩ := p.act_of_ne_update a ha
    constructor
    · rw [hdisplay, hcalls]
      exact h.kept.append_asides hasides
    · rw [hcalls]
      refine h.inOrder.append fun m hm => ?_
      rw [marksTaken_asides hasides] at hm
      exact absurd hm List.not_mem_nil

theorem prefix_calls_acts (p : IssuePanel F) (as : List (Act F)) :
    p.calls <+: (p.acts as).calls := by
  induction as using List.reverseRecOn with
  | nil => exact List.prefix_rfl
  | append_singleton as a ih =>
    rw [acts_append_singleton]
    exact ih.trans ((p.acts as).prefix_calls_act a)

/-- If no name is given twice in all, none was given twice before. -/
theorem nodup_of_acts {p : IssuePanel F} (as : List (Act F))
    (h : (namesMade (p.acts as).calls).Nodup) : (namesMade p.calls).Nodup := by
  obtain ⟨cs, hcs⟩ := p.prefix_calls_acts as
  rw [← hcs, namesMade_append] at h
  exact (List.nodup_append.mp h).1

theorem markersInOrder_acts (front : F) (as : List (Act F))
    (hfresh : (namesMade ((opening front).acts as).calls).Nodup) :
    ((opening front).acts as).MarkersInOrder := by
  induction as using List.reverseRecOn with
  | nil =>
    refine ⟨⟨fun m hm => absurd hm List.not_mem_nil, List.nodup_nil, rfl⟩, fun pre m post heq => ?_⟩
    exact absurd heq.symm (by simp [opening, acts, calls])
  | append_singleton as a ih =>
    rw [acts_append_singleton] at hfresh ⊢
    exact (ih (nodup_of_acts [a] hfresh)).act a hfresh

/-! ### What is shown -/

/-- Until the next update, the issues that are shown are left alone. -/
theorem acts_of_no_update (p : IssuePanel F) {as : List (Act F)} (has : .update ∉ as) :
    (p.acts as).display = p.display ∧
      ∃ cs, (p.acts as).calls = p.calls ++ cs ∧ ∀ c ∈ cs, c.isAside := by
  induction as using List.reverseRecOn with
  | nil => exact ⟨rfl, [], (List.append_nil _).symm, by simp⟩
  | append_singleton as a ih =>
    obtain ⟨hdisplay, cs, hcalls, hasides⟩ := ih fun hmem => has (List.mem_append_left _ hmem)
    have ha : a ≠ .update := fun heq => has (by simp [heq])
    obtain ⟨hdisplay', cs', hcalls', hasides'⟩ := (p.acts as).act_of_ne_update a ha
    rw [acts_append_singleton]
    refine ⟨hdisplay'.trans hdisplay, cs ++ cs', ?_, fun c hc => ?_⟩
    · rw [hcalls', hcalls, List.append_assoc]
    · exact (List.mem_append.mp hc).elim (hasides c) (hasides' c)

/-- What is shown is the list of the last update. -/
theorem shows_acts (front : F) {before after : List (Act F)} (hafter : .update ∉ after)
    (hfresh : (namesMade ((opening front).acts (before ++ .update :: after)).calls).Nodup) :
    Shows ((opening front).acts (before ++ .update :: after)).calls
      ((opening front).acts (before ++ .update :: after)).display
      ((opening front).acts before).issues.shown := by
  rw [acts_append_cons] at hfresh ⊢
  let p := (opening front).acts before
  have hupdate : (namesMade (p.act .update).calls).Nodup := nodup_of_acts after hfresh
  have hkept : MarkersKept p.calls p.display :=
    (markersInOrder_acts front before (nodup_of_acts [.update] hupdate)).kept
  obtain ⟨new, left, hlength, hdisplay, hcalls⟩ := p.act_update
  rw [hcalls] at hupdate
  obtain ⟨hdisplay', cs, hcalls', hasides⟩ := (p.act .update).acts_of_no_update hafter
  rw [hdisplay', hcalls', hdisplay, hcalls]
  exact (Shows.of_update hkept hlength hupdate).append_asides hasides

end IssuePanel

/-- Two runs show the same issues, up to the names of the markers. -/
structure SameSurfaces (cs cs' : List Call) (v v' : IssueDisplay) : Prop where
  notes : lastNotes cs = lastNotes cs'
  entries : lastEntries cs = lastEntries cs'
  marked : (marksLeft cs).map Prod.snd = (marksLeft cs').map Prod.snd
  tally : lastTally cs = lastTally cs'
  listVisible : v.listVisible = v'.listVisible

theorem Shows.sameSurfaces {cs cs' : List Call} {v v' : IssueDisplay} {D : List Diagnostic}
    (h : Shows cs v D) (h' : Shows cs' v' D) : SameSurfaces cs cs' v v' where
  notes := h.notes.trans h'.notes.symm
  entries := h.entries.trans h'.entries.symm
  marked := h.marked.trans h'.marked.symm
  tally := h.tally.trans h'.tally.symm
  listVisible := Bool.eq_iff_iff.mpr (h.listVisible.trans h'.listVisible.symm)

/-- What a new display shows on a new front end. -/
theorem IssueDisplay.shows_update_new {G : Type} [Frontend G] (l : IssueList) (other : G) :
    let new := ({} : IssueDisplay).update l (⟨other, []⟩ : Recorder G)
    Shows new.2.calls new.1 l.shown := by
  intro new
  obtain ⟨ms, left, hlength, hdisplay, hcalls⟩ :=
    ({} : IssueDisplay).update_eq l (⟨other, []⟩ : Recorder G)
  rw [hdisplay, hcalls]
  refine .of_marksLeft hlength ?_
  rw [List.nil_append, marksLeft, marksMade_updateCalls, marksTaken_updateCalls]
  simp

/-- **An update depends on the list only.** Let issues be added and cleared, in any order with
updates of what is shown and with changes of the front end, which gives every name once. Then the
remembered markers are those that are left, none is taken away twice, and none before it was made.

Until the next update, what is shown is what a new display shows on any new front end of the list
as it was at the last update. If this list had issues, the list of issues can be moved to the middle
of the window as wide as it is then; otherwise, and before the first update, it is not moved. The
place is exact if all numbers on the way to it are doubles. -/
theorem update_depends_on_list_only {F : Type} [Frontend F] (front : F)
    (as : List (IssuePanel.Act F))
    (hfresh : (namesMade ((IssuePanel.opening front).acts as).calls).Nodup) :
    let p := (IssuePanel.opening front).acts as
    let left := 0.5 * Frontend.windowWidth p.front.front - 0.5 * Frontend.listWidth p.front.front
    p.display.markers = (marksLeft p.calls).map Prod.fst ∧
      (marksTaken p.calls).Nodup ∧
      (∀ pre m post, p.calls = pre ++ .cue (.unmark m) :: post → m ∈ namesMade pre) ∧
      (∀ before after, as = before ++ .update :: after → .update ∉ after →
        let l := ((IssuePanel.opening front).acts before).issues
        (∀ {G : Type} [Frontend G] (other : G),
          let new := ({} : IssueDisplay).update l (⟨other, []⟩ : Recorder G)
          SameSurfaces p.calls new.2.calls p.display new.1) ∧
        (p.act .centre).calls =
          p.calls ++ if l.size = 0 then [] else [.cue (.placeList left)]) ∧
      (.update ∉ as → (p.act .centre).calls = p.calls) ∧
      ∀ a b, Double.value? (Frontend.windowWidth p.front.front) = some a →
        Double.value? (Frontend.listWidth p.front.front) = some b →
        Double.IsExact (1 / 2 * a) → Double.IsExact (1 / 2 * b) →
        Double.IsExact (1 / 2 * a - 1 / 2 * b) →
        Double.value? left = some (1 / 2 * a - 1 / 2 * b) := by
  intro p left
  have hmarkers := IssuePanel.markersInOrder_acts front as hfresh
  refine ⟨hmarkers.kept.left.symm, hmarkers.kept.once, hmarkers.inOrder, ?_, ?_, ?_⟩
  · intro before after heq hafter l
    have hshows : Shows p.calls p.display l.shown := by
      subst heq
      exact IssuePanel.shows_acts front hafter hfresh
    refine ⟨fun other => hshows.sameSurfaces (IssueDisplay.shows_update_new l other), ?_⟩
    have hvisible : p.display.listVisible = true ↔ l.size ≠ 0 := by
      rw [hshows.listVisible, ← l.length_shown, ne_eq, ne_eq, List.length_eq_zero_iff]
    rw [p.calls_act_centre]
    by_cases hsize : l.size = 0
    · rw [if_pos hsize, if_neg fun hlist => hvisible.mp hlist hsize]
    · rw [if_neg hsize, if_pos (hvisible.mpr hsize)]
      rfl
  · intro hnone
    have hdisplay : p.display = {} := ((IssuePanel.opening front).acts_of_no_update hnone).1
    rw [p.calls_act_centre, hdisplay]
    exact List.append_nil _
  · intro a b ha hb hhalf hhalf' hleft
    exact Double.value?_sub (Double.value?_half_mul ha hhalf) (Double.value?_half_mul hb hhalf')
      hleft

/-- The list is cleared after an update, and the window gets another width before the list of issues
is moved to its middle. -/
theorem cleared_list_is_moved_to_middle :
    let x : Diagnostic := ⟨.error, 3, "Missing target."⟩
    let as : List (IssuePanel.Act Stage) :=
      [.add x, .update, .clear, .change fun s => { s with windowWidth := 1000 }]
    let p := (IssuePanel.opening ({} : Stage)).acts as
    (namesMade p.calls).Nodup ∧
      (p.act .centre).calls = p.calls ++ [.cue (.placeList (0.5 * 1000 - 0.5 * 300))] ∧
      Double.value? (0.5 * 1000 - 0.5 * 300) = some 350 := by
  intro x as p
  have hfresh : (namesMade p.calls).Nodup := by decide +kernel
  have hwindow : Frontend.windowWidth p.front.front = 1000 := rfl
  have hlist : Frontend.listWidth p.front.front = 300 := by decide +kernel
  have hsize : ((IssuePanel.opening ({} : Stage)).acts [.add x]).issues.size = 1 := rfl
  obtain ⟨-, -, -, hlast, -, hexact⟩ := update_depends_on_list_only ({} : Stage) as hfresh
  obtain ⟨-, hcentre⟩ := hlast [.add x] [.clear, .change _] rfl (by simp)
  rw [hsize, hwindow, hlist] at hcentre
  rw [hwindow, hlist] at hexact
  have h1000 : Double.value? 1000 = some 1000 :=
    Double.value?_natCast (k := 43) (by constructor <;> decide) (by decide) (by decide +kernel)
  have h300 : Double.value? 300 = some 300 :=
    Double.value?_natCast (k := 44) (by constructor <;> decide) (by decide) (by decide +kernel)
  have h500 : Double.IsExact 500 := ⟨500,
    Double.value?_natCast (k := 44) (by constructor <;> decide) (by decide) (by decide +kernel)⟩
  have h150 : Double.IsExact 150 := ⟨150,
    Double.value?_natCast (k := 45) (by constructor <;> decide) (by decide) (by decide +kernel)⟩
  have h350 : Double.IsExact 350 := ⟨350,
    Double.value?_natCast (k := 44) (by constructor <;> decide) (by decide) (by decide +kernel)⟩
  have hleft := hexact 1000 300 h1000 h300
  norm_num at hleft
  exact ⟨hfresh, hcentre, hleft h500 h150 h350⟩

end Playthrough
