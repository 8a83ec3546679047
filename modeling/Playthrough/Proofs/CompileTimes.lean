import Mathlib.Data.List.Induction
import Playthrough.CompileTimer

/-!
# When a timer goes off

A compile timer keeps two times at most, that of the last edit and that of the first compile. What
it answers when it is checked can nevertheless be told from its whole history: from the last edit
since it went off or was settled, or, as long as neither has ever happened, from the time it was
made. Times may go backwards from one use to the next.

## Main definitions

* `CompileTimer.Use`, `CompileTimer.act` — what is done with a timer.
* `CompileTimer.Moment`, `CompileTimer.history` — what was done with a timer, and when it went off.
* `CompileTimer.LastEdit` — the last edit since the timer went off or was settled.
* `CompileTimer.Recalls` — what a timer keeps of its history.

## Main results

* `CompileTimer.Recalls.act`, `CompileTimer.recalls_after` — a use, and any uses, keep it.
* `compile_times_follow_history` — when a timer goes off, and when it is armed.
-/

namespace Playthrough

namespace CompileTimer

/-! ### Histories -/

/-- What is done with a timer. -/
inductive Use where
  | edit (now : Nat)
  | check (now : Nat)
  | settle
  deriving DecidableEq, Repr, Inhabited

namespace Use

/-- The time of a use. -/
def time? : Use → Option Nat
  | .edit now => some now
  | .check now => some now
  | .settle => none

/-- A use is not made at a later time than another one. -/
def NotAfter (u v : Use) : Prop :=
  ∀ a ∈ u.time?, ∀ b ∈ v.time?, a ≤ b

end Use

/-- A use of a timer, and whether the timer went off. -/
structure Moment where
  use : Use
  goesOff : Bool
  deriving DecidableEq, Repr, Inhabited

namespace Moment

/-- Whether nothing is waited for any more. -/
def settles (m : Moment) : Bool :=
  m.goesOff || m.use = .settle

/-- Whether the timer was checked and did not go off. -/
def isIdle (m : Moment) : Bool :=
  match m.use with
  | .check _ => !m.goesOff
  | _ => false

theorem settles_of_isIdle {m : Moment} (h : m.isIdle) : m.settles = false := by
  obtain ⟨use, goesOff⟩ := m
  cases use <;> simp_all [isIdle, settles]

end Moment

variable (t : CompileTimer)

/-- The timer after a use, and whether it went off. -/
def act : Use → CompileTimer × Bool
  | .edit now => (t.noteEdit now, false)
  | .check now => t.check now
  | .settle => (t.settle, false)

/-- The timer after some uses, one after the other. -/
def after (us : List Use) : CompileTimer :=
  us.foldl (fun t u => (t.act u).1) t

/-- What becomes of some uses, one after the other. -/
def history (t : CompileTimer) : List Use → List Moment
  | [] => []
  | u :: us => ⟨u, (t.act u).2⟩ :: history (t.act u).1 us

@[simp] theorem after_append (us vs : List Use) : t.after (us ++ vs) = (t.after us).after vs :=
  List.foldl_append

theorem history_append (us vs : List Use) :
    t.history (us ++ vs) = t.history us ++ (t.after us).history vs := by
  induction us generalizing t with
  | nil => rfl
  | cons u us ih => exact congrArg (⟨u, (t.act u).2⟩ :: ·) (ih (t.act u).1)

theorem map_use_history (us : List Use) : (t.history us).map Moment.use = us := by
  induction us generalizing t with
  | nil => rfl
  | cons u us ih => exact congrArg (u :: ·) (ih (t.act u).1)

/-- What became of a use in a history is what becomes of it for the timer as it was then. -/
theorem exists_of_history_eq {us : List Use} {earlier later : List Moment} {m : Moment}
    (h : t.history us = earlier ++ m :: later) :
    ∃ before, t.history before = earlier ∧ m.goesOff = ((t.after before).act m.use).2 := by
  let before := earlier.map Moment.use
  have hus : us = before ++ m.use :: later.map Moment.use := by
    rw [← t.map_use_history us, h, List.map_append, List.map_cons]
  have hlength : (t.history before).length = earlier.length := by
    rw [← List.length_map Moment.use, map_use_history, List.length_map]
  rw [hus, history_append] at h
  obtain ⟨hearlier, hrest⟩ := List.append_inj h hlength
  exact ⟨before, hearlier, congrArg Moment.goesOff (List.head_eq_of_cons_eq hrest).symm⟩

/-! ### What a timer keeps of its history -/

/-- The last edit since the timer went off or was settled was made at this time: behind it, the
timer was only checked and did not go off. -/
def LastEdit (ms : List Moment) (edit : Nat) : Prop :=
  ∃ earlier later, ms = earlier ++ ⟨.edit edit, false⟩ :: later ∧ ∀ m ∈ later, m.isIdle

theorem lastEdit_append_singleton {ms : List Moment} {m : Moment} {edit : Nat} :
    LastEdit (ms ++ [m]) edit ↔ m = ⟨.edit edit, false⟩ ∨ m.isIdle ∧ LastEdit ms edit := by
  constructor
  · rintro ⟨earlier, later, heq, hidle⟩
    rcases List.eq_nil_or_concat later with rfl | ⟨later, last, rfl⟩
    · exact .inl (List.append_inj_right' heq rfl |> List.head_eq_of_cons_eq)
    · rw [List.concat_eq_append, ← List.cons_append, ← List.append_assoc] at heq
      obtain ⟨rfl, hlast⟩ := List.append_inj' heq rfl
      obtain rfl := List.head_eq_of_cons_eq hlast
      exact .inr ⟨hidle m (by simp), earlier, later, rfl, fun m' hm => hidle m' (by simp [hm])⟩
  · rintro (rfl | ⟨hidle, earlier, later, rfl, hlater⟩)
    · exact ⟨ms, [], rfl, by simp⟩
    · refine ⟨earlier, later ++ [m], by simp, fun m' hm => ?_⟩
      rcases List.mem_append.mp hm with hm | hm
      · exact hlater m' hm
      · exact List.mem_singleton.mp hm ▸ hidle

theorem not_lastEdit_of_settles {ms : List Moment} {m : Moment} {edit : Nat}
    (hm : m.settles = true) : ¬ LastEdit (ms ++ [m]) edit := by
  rw [lastEdit_append_singleton]
  rintro (rfl | ⟨hidle, -⟩)
  · contradiction
  · rw [Moment.settles_of_isIdle hidle] at hm
    contradiction

/-- What a timer that was made at a time keeps of its history. -/
structure Recalls (timing : Timing) (created : Nat) (ms : List Moment) (t : CompileTimer) :
    Prop where
  quiet : t.quiet = timing.quiet
  lastEdit : ∀ edit, t.lastEdit = some edit ↔ LastEdit ms edit
  firstCompile : t.firstCompile =
    if ms.any Moment.settles then none else some (created + timing.startup)

namespace Recalls

variable {t} {timing : Timing} {created : Nat} {ms : List Moment}

theorem edit (h : t.Recalls timing created ms) (now : Nat) :
    (t.noteEdit now).Recalls timing created (ms ++ [⟨.edit now, false⟩]) := by
  refine ⟨h.quiet, fun edit => ?_, ?_⟩
  · rw [lastEdit_append_singleton]
    simp [noteEdit, Moment.isIdle]
  · rw [List.any_append]
    simpa [noteEdit, Moment.settles] using h.firstCompile

theorem settle (h : t.Recalls timing created ms) {m : Moment} (hm : m.settles = true) :
    t.settle.Recalls timing created (ms ++ [m]) := by
  refine ⟨h.quiet, fun edit => ?_, ?_⟩
  · exact iff_of_false (by simp [CompileTimer.settle]) (not_lastEdit_of_settles hm)
  · rw [List.any_append]
    simp [CompileTimer.settle, hm]

theorem idle (h : t.Recalls timing created ms) {m : Moment} (hm : m.isIdle = true) :
    t.Recalls timing created (ms ++ [m]) := by
  refine ⟨h.quiet, fun edit => ?_, ?_⟩
  · rw [lastEdit_append_singleton, h.lastEdit]
    have hedit : m ≠ ⟨.edit edit, false⟩ := by
      rintro rfl
      contradiction
    simp [hm, hedit]
  · rw [List.any_append]
    simpa [Moment.settles_of_isIdle hm] using h.firstCompile

/-- A use of the timer is recalled. -/
theorem act (h : t.Recalls timing created ms) (u : Use) :
    (t.act u).1.Recalls timing created (ms ++ [⟨u, (t.act u).2⟩]) := by
  cases u with
  | edit now => exact h.edit now
  | settle => exact h.settle rfl
  | check now =>
    cases hdue : t.isDue now with
    | true =>
      have hact : t.act (.check now) = (t.settle, true) := by simp [CompileTimer.act, check, hdue]
      rw [hact]
      exact h.settle rfl
    | false =>
      have hact : t.act (.check now) = (t, false) := by simp [CompileTimer.act, check, hdue]
      rw [hact]
      exact h.idle rfl

end Recalls

theorem recalls_start (timing : Timing) (created : Nat) :
    (start timing created).Recalls timing created [] :=
  ⟨rfl, fun edit => by simp [start, LastEdit], rfl⟩

/-- A timer recalls its history. -/
theorem recalls_after (timing : Timing) (created : Nat) (us : List Use) :
    ((start timing created).after us).Recalls timing created
      ((start timing created).history us) := by
  induction us using List.reverseRecOn with
  | nil => exact recalls_start timing created
  | append_singleton us u ih =>
    rw [history_append, after_append]
    exact ih.act u

/-! ### When a timer goes off -/

/-- A timer goes off if the last edit is some time past, or if it has never gone off nor been
settled, there was no edit, and the time of the first compile has come. -/
def DueAfter (timing : Timing) (created : Nat) (ms : List Moment) (now : Nat) : Prop :=
  (∃ edit, LastEdit ms edit ∧ timing.quiet ≤ now - edit) ∨
    (¬ ∃ edit, LastEdit ms edit) ∧ (∀ m ∈ ms, m.settles = false) ∧
      created + timing.startup ≤ now

namespace Recalls

variable {t} {timing : Timing} {created : Nat} {ms : List Moment}

theorem lastEdit_eq_none_iff (h : t.Recalls timing created ms) :
    t.lastEdit = none ↔ ¬ ∃ edit, LastEdit ms edit := by
  simp [Option.eq_none_iff_forall_not_mem, ← h.lastEdit]

theorem firstCompile_eq_some_iff (h : t.Recalls timing created ms) {first : Nat} :
    t.firstCompile = some first ↔
      (∀ m ∈ ms, m.settles = false) ∧ created + timing.startup = first := by
  have hany : (∀ m ∈ ms, m.settles = false) ↔ ms.any Moment.settles = false := by
    simp [List.any_eq_false]
  rw [h.firstCompile, hany]
  cases ms.any Moment.settles <;> simp

theorem check_iff (h : t.Recalls timing created ms) (now : Nat) :
    (t.check now).2 = true ↔ DueAfter timing created ms now := by
  have hcheck : (t.check now).2 = t.isDue now := by
    cases hdue : t.isDue now <;> simp [check, hdue]
  rw [hcheck, isDue]
  cases hedit : t.lastEdit with
  | some edit =>
    have hlast : LastEdit ms edit := (h.lastEdit edit).mp hedit
    have hunique (edit' : Nat) (hlast' : LastEdit ms edit') : edit' = edit :=
      Option.some.inj (((h.lastEdit edit').mpr hlast').symm.trans hedit)
    refine decide_eq_true_iff.trans ⟨fun hquiet => .inl ⟨edit, hlast, h.quiet ▸ hquiet⟩, ?_⟩
    rintro (⟨edit', hlast', hquiet⟩ | ⟨hnone, -⟩)
    · rw [h.quiet, ← hunique edit' hlast']
      exact hquiet
    · exact absurd ⟨edit, hlast⟩ hnone
  | none =>
    have hnone := h.lastEdit_eq_none_iff.mp hedit
    cases hfirst : t.firstCompile with
    | some first =>
      obtain ⟨hunsettled, rfl⟩ := h.firstCompile_eq_some_iff.mp hfirst
      refine decide_eq_true_iff.trans ⟨fun hcome => .inr ⟨hnone, hunsettled, hcome⟩, ?_⟩
      rintro (⟨edit, hlast, -⟩ | ⟨-, -, hcome⟩)
      · exact absurd ⟨edit, hlast⟩ hnone
      · exact hcome
    | none =>
      refine iff_of_false Bool.false_ne_true ?_
      rintro (⟨edit, hlast, -⟩ | ⟨-, hunsettled, -⟩)
      · exact hnone ⟨edit, hlast⟩
      · have hsome := h.firstCompile_eq_some_iff.mpr ⟨hunsettled, rfl⟩
        rw [hfirst] at hsome
        contradiction

theorem isArmed_iff (h : t.Recalls timing created ms) :
    t.isArmed = true ↔ (∃ edit, LastEdit ms edit) ∨ ∀ m ∈ ms, m.settles = false := by
  rw [isArmed, Bool.or_eq_true, Option.isSome_iff_exists, Option.isSome_iff_exists]
  refine or_congr (exists_congr h.lastEdit) ⟨?_, fun hunsettled => ?_⟩
  · rintro ⟨first, hfirst⟩
    exact (h.firstCompile_eq_some_iff.mp hfirst).1
  · exact ⟨_, h.firstCompile_eq_some_iff.mpr ⟨hunsettled, rfl⟩⟩

end Recalls

variable {timing : Timing} {created : Nat} {us : List Use}

/-- Where the timer goes off in a history, it was checked and due after what came before. -/
theorem dueAfter_of_history_eq {earlier later : List Moment} {m : Moment}
    (h : (start timing created).history us = earlier ++ m :: later) (hoff : m.goesOff = true) :
    ∃ now, m.use = .check now ∧ DueAfter timing created earlier now := by
  obtain ⟨before, hearlier, hgoesOff⟩ := exists_of_history_eq _ h
  have hrecalls := recalls_after timing created before
  rw [hearlier] at hrecalls
  rw [hoff] at hgoesOff
  cases huse : m.use <;> rw [huse] at hgoesOff
  case check now => exact ⟨now, rfl, (hrecalls.check_iff now).mp hgoesOff.symm⟩
  case edit now => contradiction
  case settle => contradiction

/-- A last edit was made behind everything that settled the timer. -/
theorem LastEdit.mem_of_settles {earlier between : List Moment} {m : Moment} {edit : Nat}
    (h : LastEdit (earlier ++ m :: between) edit) (hm : m.settles = true) :
    ⟨.edit edit, false⟩ ∈ between := by
  induction between using List.reverseRecOn with
  | nil => exact absurd h (not_lastEdit_of_settles hm)
  | append_singleton between last ih =>
    rw [← List.cons_append, ← List.append_assoc, lastEdit_append_singleton] at h
    rcases h with rfl | ⟨-, h⟩
    · simp
    · exact List.mem_append_left _ (ih h)

/-- Of two times that a timer goes off, the second is because of an edit made in between. -/
theorem lastEdit_between {earlier between later : List Moment} {m m' : Moment}
    (h : (start timing created).history us = earlier ++ m :: between ++ m' :: later)
    (hm : m.goesOff = true) (hm' : m'.goesOff = true) :
    ∃ edit, LastEdit (earlier ++ m :: between) edit ∧ ⟨.edit edit, false⟩ ∈ between := by
  have hsettles : m.settles = true := by simp [Moment.settles, hm]
  obtain ⟨now, -, ⟨edit, hlast, -⟩ | ⟨-, hunsettled, -⟩⟩ := dueAfter_of_history_eq h hm'
  · exact ⟨edit, hlast, hlast.mem_of_settles hsettles⟩
  · rw [hunsettled m (by simp)] at hsettles
    contradiction

/-- If time goes on, a last edit was made no earlier than any other. -/
theorem LastEdit.le {ms : List Moment} {edit edit' : Nat} (h : LastEdit ms edit)
    (hsorted : (ms.map Moment.use).Pairwise Use.NotAfter) (hmem : ⟨.edit edit', false⟩ ∈ ms) :
    edit' ≤ edit := by
  obtain ⟨before, behind, rfl, hidle⟩ := h
  rw [List.map_append, List.pairwise_append] at hsorted
  rcases List.mem_append.mp hmem with hmem | hmem
  · exact hsorted.2.2 _ (List.mem_map_of_mem hmem) (.edit edit) (by simp) edit' rfl edit rfl
  · rcases List.mem_cons.mp hmem with heq | hmem
    · exact Nat.le_of_eq (by simpa using heq)
    · exact absurd (hidle _ hmem) (by simp [Moment.isIdle])

/-- If time goes on, a timer that goes off because of an edit goes off some time after every edit
before. -/
theorem edit_add_quiet_le {earlier later : List Moment} {now edit : Nat}
    (hsorted : us.Pairwise Use.NotAfter)
    (h : (start timing created).history us = earlier ++ ⟨.check now, true⟩ :: later)
    (hcause : ∃ last, LastEdit earlier last) (hmem : ⟨.edit edit, false⟩ ∈ earlier) :
    edit + timing.quiet ≤ now := by
  rw [← (start timing created).map_use_history us, h, List.map_append,
    List.pairwise_append] at hsorted
  obtain ⟨hearlier, -, hbefore⟩ := hsorted
  obtain ⟨_, huse, ⟨last, hlast, hquiet⟩ | ⟨hnone, -⟩⟩ := dueAfter_of_history_eq h rfl
  · obtain rfl : now = _ := Use.check.inj huse
    have hle := hlast.le hearlier hmem
    obtain ⟨before, behind, rfl, -⟩ := hlast
    have hlastLe : last ≤ now :=
      hbefore (.edit last) (by simp) (.check now) (by simp) last rfl now rfl
    omega
  · exact absurd hcause hnone

end CompileTimer

open CompileTimer in
/-- **A timer follows its history.** Take a timer with any waiting times, made at any time, after
any uses at any times. It goes off when it is checked just if the last edit since it went off or
was settled is long enough past, or if there is no such edit, it has never gone off nor been
settled, and the time of the first compile has come. It is armed just if there is such an edit, or
if it has never gone off nor been settled. Of two times that it goes off, the second is because of
an edit made in between, so that it goes off at most once for the first compile. If time goes on, a
timer that goes off because of an edit goes off long enough after every edit. -/
theorem compile_times_follow_history (timing : Timing) (created : Nat) (us : List Use) :
    let t := (start timing created).after us
    let ms := (start timing created).history us
    (∀ now, (t.check now).2 = true ↔
      (∃ edit, LastEdit ms edit ∧ timing.quiet ≤ now - edit) ∨
        (¬ ∃ edit, LastEdit ms edit) ∧ (∀ m ∈ ms, m.settles = false) ∧
          created + timing.startup ≤ now) ∧
      (t.isArmed = true ↔ (∃ edit, LastEdit ms edit) ∨ ∀ m ∈ ms, m.settles = false) ∧
      (∀ earlier m between m' later, ms = earlier ++ m :: between ++ m' :: later →
        m.goesOff = true → m'.goesOff = true →
          ∃ edit, LastEdit (earlier ++ m :: between) edit ∧ ⟨.edit edit, false⟩ ∈ between) ∧
      (us.Pairwise Use.NotAfter → ∀ earlier now later edit,
        ms = earlier ++ ⟨.check now, true⟩ :: later → (∃ last, LastEdit earlier last) →
          ⟨.edit edit, false⟩ ∈ earlier → edit + timing.quiet ≤ now) := by
  intro t ms
  have hrecalls : t.Recalls timing created ms := recalls_after timing created us
  exact ⟨hrecalls.check_iff, hrecalls.isArmed_iff, fun _ _ _ _ _ h => lastEdit_between h,
    fun hsorted _ _ _ _ h => edit_add_quiet_le hsorted h⟩

open CompileTimer in
/-- A burst of edits keeps the first compile waiting, and is compiled once. The next compile is
because of an edit behind that, and each comes long enough after all edits before. -/
theorem bursts_are_compiled_once_each :
    let us : List Use := [.edit 800, .check 1000, .edit 1200, .check 1699, .check 1700, .edit 2000,
      .check 2500]
    let ms := (start {} 0).history us
    let burst : List Moment :=
      [⟨.edit 800, false⟩, ⟨.check 1000, false⟩, ⟨.edit 1200, false⟩, ⟨.check 1699, false⟩]
    let between : List Moment := [⟨.edit 2000, false⟩]
    us.Pairwise Use.NotAfter ∧
      ms = burst ++ ⟨.check 1700, true⟩ :: between ++ [⟨.check 2500, true⟩] ∧
      (∃ edit, LastEdit (burst ++ ⟨.check 1700, true⟩ :: between) edit ∧
        ⟨.edit edit, false⟩ ∈ between) ∧
      (∀ edit, ⟨.edit edit, false⟩ ∈ burst → edit + 500 ≤ 1700) ∧
      ∀ edit, ⟨.edit edit, false⟩ ∈ burst ++ ⟨.check 1700, true⟩ :: between →
        edit + 500 ≤ 2500 := by
  intro us ms burst between
  have hsorted : us.Pairwise Use.NotAfter := by simp [us, Use.NotAfter, Use.time?]
  have hms : ms = burst ++ ⟨.check 1700, true⟩ :: between ++ [⟨.check 2500, true⟩] := by decide
  obtain ⟨-, -, hcause, hlate⟩ := compile_times_follow_history {} 0 us
  have hbetween := hcause _ _ _ _ _ hms rfl rfl
  have hburst : LastEdit burst 1200 :=
    ⟨[⟨.edit 800, false⟩, ⟨.check 1000, false⟩], [⟨.check 1699, false⟩], rfl, by decide⟩
  have hfirst : ms = burst ++ ⟨.check 1700, true⟩ :: (between ++ [⟨.check 2500, true⟩]) :=
    hms.trans (List.append_assoc _ _ _)
  exact ⟨hsorted, hms, hbetween, fun edit => hlate hsorted _ _ _ edit hfirst ⟨1200, hburst⟩,
    fun edit => hlate hsorted _ _ _ edit hms (hbetween.imp fun _ h => h.1)⟩

end Playthrough
