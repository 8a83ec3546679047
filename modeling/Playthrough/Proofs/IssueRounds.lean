import Mathlib.Data.List.Rotate
import Playthrough.Proofs.IssueOrder

/-!
# Rounds through the issues

Three things are done with a list of issues: an issue is added, the list is cleared, and the next
issue is selected. Whatever was done, the issues are those added since the list was last cleared,
each of them once, and the selected position is the position of one of them.

The selected position runs through the shown issues in a circle. As many selections as there are
issues are a *round*: it starts behind the selected issue, comes across every issue once, and ends
where it started.

## Main definitions

* `IssueList.Act`, `IssueList.acts` — what is done with a list, and the list after it.
* `IssueList.addedBy` — the issues added since the list was last cleared.
* `IssueList.Sound` — what is kept by all acts.
* `IssueList.Gathers` — a list has some reported issues, each of them once, in their order.
* `IssueList.selectTimes` — the next issue is selected a number of times.

## Main results

* `IssueList.sound_acts`, `IssueList.arrived_acts` — no issue is there twice, and none is missing.
* `IssueList.Sound.selectTimes_succ` — the selected positions follow each other in a circle.
* `IssueList.Sound.selections_of_round` — a round comes across the shown issues in their order.
* `IssueList.gathers_and_goes_round` — what every list consists of, and how it is gone through.
-/

namespace Playthrough

namespace IssueList

/-! ### Acts -/

/-- What is done with a list of issues. -/
inductive Act where
  | add (x : Diagnostic)
  | clear
  | selectNext
  deriving DecidableEq, Repr, Inhabited

/-- The list after an act. -/
def act (l : IssueList) : Act → IssueList
  | .add x => (l.add x).1
  | .clear => l.clear
  | .selectNext => l.selectNext.1

/-- The list after some acts. -/
def acts (l : IssueList) (as : List Act) : IssueList :=
  as.foldl act l

/-- The issues added up to an act, which may add one or clear the list. -/
def Act.addTo (xs : List Diagnostic) : Act → List Diagnostic
  | .add x => xs ++ [x]
  | .clear => []
  | .selectNext => xs

/-- The issues added by some acts since the last one of them that cleared the list, with all
repetitions. -/
def addedBy (as : List Act) : List Diagnostic :=
  as.foldl Act.addTo []

section

variable (l : IssueList) (as bs : List Act) (a : Act)

@[simp] theorem acts_nil : l.acts [] = l := rfl

@[simp] theorem acts_singleton : l.acts [a] = l.act a := rfl

@[simp] theorem acts_append : l.acts (as ++ bs) = (l.acts as).acts bs :=
  List.foldl_append

@[simp] theorem addedBy_append_singleton : addedBy (as ++ [a]) = a.addTo (addedBy as) :=
  List.foldl_append

end

variable {l : IssueList} {x : Diagnostic}

theorem add_of_mem (h : x ∈ l.arrived) : l.add x = (l, false) :=
  if_pos h

theorem add_of_notMem (h : x ∉ l.arrived) :
    l.add x = ({ l with arrived := l.arrived ++ [x] }, true) :=
  if_neg h

theorem selectNext_of_size_ne_zero (h : l.size ≠ 0) :
    l.selectNext = ({ l with selected := some l.nextPosition }, l.shown[l.nextPosition]?) :=
  if_neg h

/-- Nothing is selected in a list without issues only. -/
theorem selectNext_snd_eq_none_iff : l.selectNext.2 = none ↔ l.size = 0 := by
  constructor
  · intro hnone
    by_contra hsize
    rw [selectNext_of_size_ne_zero hsize, List.getElem?_eq_none_iff, length_shown] at hnone
    exact absurd (l.nextPosition_lt hsize) (Nat.not_lt.mpr hnone)
  · intro hsize
    rw [selectNext, if_pos hsize]

/-! ### What is kept -/

/-- No issue is there twice, and the selected position is the position of an issue. -/
structure Sound (l : IssueList) : Prop where
  nodup : l.arrived.Nodup
  selected : ∀ i, l.selected = some i → i < l.size

namespace Sound

theorem clear (l : IssueList) : l.clear.Sound where
  nodup := List.nodup_nil
  selected i hi := by simp at hi

theorem add (h : l.Sound) (x : Diagnostic) : (l.add x).1.Sound := by
  by_cases hx : x ∈ l.arrived
  · rwa [add_of_mem hx]
  · rw [add_of_notMem hx]
    constructor
    · exact List.concat_eq_append ▸ h.nodup.concat hx
    · intro i hi
      have hlt : i < l.arrived.length := h.selected i hi
      simp only [size, List.length_append, List.length_singleton]
      omega

theorem selectNext (h : l.Sound) : l.selectNext.1.Sound := by
  by_cases hsize : l.size = 0
  · rwa [IssueList.selectNext, if_pos hsize]
  · rw [selectNext_of_size_ne_zero hsize]
    refine ⟨h.nodup, ?_⟩
    rintro _ ⟨⟩
    exact l.nextPosition_lt hsize

theorem act (h : l.Sound) (a : Act) : (l.act a).Sound := by
  cases a with
  | add x => exact h.add x
  | clear => exact .clear l
  | selectNext => exact h.selectNext

theorem acts (h : l.Sound) (as : List Act) : (l.acts as).Sound := by
  induction as using List.reverseRecOn with
  | nil => exact h
  | append_singleton as a ih =>
    rw [acts_append]
    exact ih.act a

theorem nodup_shown (h : l.Sound) : l.shown.Nodup :=
  l.shown_perm.nodup_iff.mpr h.nodup

end Sound

/-- Whatever is done with a new list, it stays sound. -/
theorem sound_acts (as : List Act) : (({} : IssueList).acts as).Sound :=
  (Sound.clear {}).acts as

/-- The issues are those added since the list was last cleared, without the repetitions. -/
theorem arrived_acts (as : List Act) :
    (({} : IssueList).acts as).arrived = (addedBy as).eraseDups := by
  induction as using List.reverseRecOn with
  | nil => rfl
  | append_singleton as a ih =>
    rw [acts_append, acts_singleton, addedBy_append_singleton]
    cases a with
    | add x =>
      rw [Act.addTo, eraseDups_append_singleton, ← ih]
      by_cases hx : x ∈ (({} : IssueList).acts as).arrived
      · rw [if_pos hx, act, add_of_mem hx]
      · rw [if_neg hx, act, add_of_notMem hx]
    | clear => rfl
    | selectNext => rw [act, arrived_selectNext, ih, Act.addTo]

/-- The list `l` has the issues of `xs`: the first of equal ones is there, they are shown in the
order of their keys and otherwise in the order of `xs`, and they are counted by their sorts. An
issue is added if it is not one of them, and one of them is selected if there is any. -/
structure Gathers (l : IssueList) (xs : List Diagnostic) : Prop where
  added : ∀ x, (l.add x).2 = true ↔ x ∉ xs
  nodup : l.shown.Nodup
  shown : ∀ ds, StablySorted xs.eraseDups ds ↔ ds = l.shown
  size : l.size = l.shown.length
  total : l.tally.total = l.size
  errors : l.tally.errors =
    l.shown.countP fun x => x.severity = .error ∨ x.severity = .runtimeError
  warnings : l.tally.warnings = l.shown.countP fun x => x.severity = .warning
  todos : l.tally.todos = l.shown.countP fun x => x.severity = .todo
  selected : ∀ i, l.selected = some i → i < l.size
  nothingSelected : l.selectNext.2 = none ↔ l.size = 0

theorem Sound.gathers (h : l.Sound) {xs : List Diagnostic} (harrived : l.arrived = xs.eraseDups) :
    l.Gathers xs where
  added x := by
    rw [← List.mem_eraseDups, ← harrived]
    by_cases hx : x ∈ l.arrived
    · simp [add_of_mem hx, hx]
    · simp [add_of_notMem hx, hx]
  nodup := h.nodup_shown
  shown ds := by rw [← harrived, l.stablySorted_iff]
  size := l.length_shown.symm
  total := IssueTally.total_ofList l.arrived
  errors := by simp [l.tally_eq, IssueTally.ofList]
  warnings := by rw [l.tally_eq, IssueTally.ofList]
  todos := by rw [l.tally_eq, IssueTally.ofList]
  selected := h.selected
  nothingSelected := selectNext_snd_eq_none_iff

/-! ### Rounds -/

/-- The number of the shown issues up to the selected one. A round starts behind them. -/
def reached (l : IssueList) : ℕ :=
  match l.selected with
  | some i => i + 1
  | none => 0

/-- Select the next issue a number of times: the list behind that, and what was selected. -/
def selectTimes (l : IssueList) : ℕ → IssueList × List (Option Diagnostic)
  | 0 => (l, [])
  | k + 1 =>
    let (l', xs) := l.selectTimes k
    (l'.selectNext.1, xs ++ [l'.selectNext.2])

namespace Sound

theorem nextPosition_eq (h : l.Sound) : l.nextPosition = l.reached % l.size := by
  unfold nextPosition reached
  cases hselected : l.selected with
  | none => exact (Nat.zero_mod _).symm
  | some i =>
    have hlt : i < l.size := h.selected i hselected
    dsimp only
    split_ifs with hnext
    · rw [Nat.mod_eq_of_lt hnext]
    · rw [show i + 1 = l.size by omega, Nat.mod_self]

theorem selectNext_eq (h : l.Sound) (hsize : l.size ≠ 0) :
    l.selectNext =
      ({ l with selected := some (l.reached % l.size) }, l.shown[l.reached % l.size]?) := by
  rw [selectNext_of_size_ne_zero hsize, h.nextPosition_eq]

/-- The selected positions follow each other in a circle. -/
theorem selectTimes_succ (h : l.Sound) (hsize : l.size ≠ 0) (k : ℕ) :
    l.selectTimes (k + 1) =
      ({ l with selected := some ((l.reached + k) % l.size) },
        (List.range (k + 1)).map fun j => l.shown[(l.reached + j) % l.size]?) := by
  induction k with
  | zero => simp [selectTimes, h.selectNext_eq hsize]
  | succ k ih =>
    let l' : IssueList := { l with selected := some ((l.reached + k) % l.size) }
    have hl' : l'.Sound := by
      refine ⟨h.nodup, ?_⟩
      rintro _ ⟨⟩
      exact Nat.mod_lt _ (Nat.pos_of_ne_zero hsize)
    have hreached : l'.reached % l'.size = (l.reached + (k + 1)) % l.size :=
      Nat.mod_add_mod (l.reached + k) l.size 1
    have hnext : l'.selectNext = _ := hl'.selectNext_eq hsize
    rw [hreached] at hnext
    rw [selectTimes, ih]
    dsimp only
    rw [hnext, List.range_succ (n := k + 1), List.map_append]
    rfl

/-- What becomes of a list in a round, and what is selected meanwhile. -/
theorem selectTimes_size (h : l.Sound) (hsize : l.size ≠ 0) :
    l.selectTimes l.size =
      ({ l with selected := some ((l.reached + (l.size - 1)) % l.size) },
        (List.range l.size).map fun j => l.shown[(l.reached + j) % l.size]?) := by
  have hround := h.selectTimes_succ hsize (l.size - 1)
  rwa [Nat.sub_add_cancel (Nat.one_le_iff_ne_zero.mpr hsize)] at hround

/-- A round comes across the shown issues in their order, from the one behind the selected one. -/
theorem selections_of_round (h : l.Sound) :
    (l.selectTimes l.size).2 = (l.shown.rotate l.reached).map some := by
  by_cases hsize : l.size = 0
  · have hshown : l.shown = [] := List.length_eq_zero_iff.mp (l.length_shown.trans hsize)
    simp [hsize, hshown, selectTimes]
  · rw [h.selectTimes_size hsize]
    refine List.ext_getElem (by simp) fun j hj _ => ?_
    have hj : j < l.size := by simpa using hj
    have hlt : (l.reached + j) % l.size < l.shown.length := by
      rw [length_shown]
      exact Nat.mod_lt _ (Nat.pos_of_ne_zero hsize)
    simp only [List.getElem_map, List.getElem_range, List.getElem_rotate, length_shown,
      List.getElem?_eq_getElem hlt, Nat.add_comm j]

/-- A round ends where it started. -/
theorem round_of_selected (h : l.Sound) (hselected : l.selected ≠ none) :
    (l.selectTimes l.size).1 = l := by
  obtain ⟨i, hi⟩ := Option.ne_none_iff_exists'.mp hselected
  have hlt : i < l.size := h.selected i hi
  have hend : (l.reached + (l.size - 1)) % l.size = i := by
    rw [reached, hi, show i + 1 + (l.size - 1) = i + l.size by omega, Nat.add_mod_right,
      Nat.mod_eq_of_lt hlt]
  rw [h.selectTimes_size (by omega), hend, ← hi]

end Sound

/-- Whatever was done with a new list, it has the issues added since it was last cleared, and a
round selects each of them once, in the order in which they are shown, rotated to begin behind the
selected one. An issue that was selected before the round is selected again behind it. -/
theorem gathers_and_goes_round (as : List Act) :
    let l := ({} : IssueList).acts as
    l.Gathers (addedBy as) ∧
      (l.selectTimes l.size).2 = (l.shown.rotate l.reached).map some ∧
      (∀ x ∈ l.shown, (l.selectTimes l.size).2.count (some x) = 1) ∧
      (l.selected ≠ none → (l.selectTimes l.size).1 = l) := by
  intro l
  have h : l.Sound := sound_acts as
  refine ⟨h.gathers (arrived_acts as), h.selections_of_round, fun x hx => ?_, h.round_of_selected⟩
  have honce : ((l.shown.rotate l.reached).map some).Nodup :=
    (List.nodup_rotate.mpr h.nodup_shown).map fun _ _ => Option.some.inj
  rw [h.selections_of_round, List.count_eq_one_of_mem honce]
  exact List.mem_map_of_mem (List.mem_rotate.mpr hx)

end IssueList

end Playthrough
