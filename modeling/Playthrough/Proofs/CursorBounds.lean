import Playthrough.Proofs.LogPath

/-!
# The cursor and the end of the log

Six things are done with a choice log. While the log is being taken again, its cursor points at the
choice that is due, or behind the last one. From there the story goes live, because all choices have
been taken: taking the choices that are due, until none is, leads there.

One thing can move the cursor out of the log. To drop the last choice leaves the cursor where it is,
so if all choices have been taken already, it then points further than behind the last one. Such a
log never goes live, takes nothing and adds nothing until it is rewound or cleared. Whoever drops
the last choice has to rewind the log therefore, as the director does.

## Main definitions

* `ChoiceLog.Act`, `ChoiceLog.acts` — what is done with a log, and the log after it.
* `ChoiceLog.IsInside` — the cursor is not beyond the end of the log.
* `ChoiceLog.IsSpent` — all choices have been taken again, and there are some.
* `ChoiceLog.takeAll` — take the choices that are due until none is.

## Main results

* `ChoiceLog.isInside_act_iff` — what a single act does to the cursor.
* `ChoiceLog.isInside_acts_iff` — the cursor after any acts.
* `ChoiceLog.takeAll_of_next` — taking all choices leads behind the last one.
* `ChoiceLog.inside_iff_not_dropped_when_spent` — when a log is gone through to its end.
* `Director.isInside_log_run` — a director's cursor is never beyond the end of the log.
-/

namespace Playthrough

namespace ChoiceLog

/-! ### Acts -/

/-- What is done with a log. -/
inductive Act where
  | add (n : Nat)
  | rewind
  | takeDue
  | goLive
  | clear
  | dropLast
  deriving DecidableEq, Repr, Inhabited

/-- The log after an act. -/
def act (log : ChoiceLog) : Act → ChoiceLog
  | .add n => (log.add n).1
  | .rewind => log.rewound
  | .takeDue => log.takeDue.1
  | .goLive => log.goLive.1
  | .clear => log.clear
  | .dropLast => log.dropLast.1

/-- The log after some acts. -/
def acts (log : ChoiceLog) (as : List Act) : ChoiceLog :=
  as.foldl act log

/-- Whether an act puts the cursor at the beginning, wherever it was. -/
def Act.resets : Act → Bool
  | .rewind => true
  | .clear => true
  | _ => false

variable {log : ChoiceLog} {i n : Nat}

@[simp] theorem acts_append_singleton (log : ChoiceLog) (as : List Act) (a : Act) :
    log.acts (as ++ [a]) = (log.acts as).act a :=
  List.foldl_append

/-! ### The cursor -/

/-- The cursor is not beyond the end of the log: the story is live, or the cursor points at a choice
or behind the last one. -/
def IsInside (log : ChoiceLog) : Prop :=
  ∀ i, log.cursor = .next i → i ≤ log.choices.length

/-- All choices have been taken again, and there are some. -/
def IsSpent (log : ChoiceLog) : Prop :=
  log.isCaughtUp = true ∧ log.choices ≠ []

theorem isInside_of_live (h : log.cursor = .live) : log.IsInside := by
  intro i hi
  rw [h] at hi
  contradiction

theorem isInside_of_next (h : log.cursor = .next i) :
    log.IsInside ↔ i ≤ log.choices.length := by
  constructor
  · intro hinside
    exact hinside i h
  · intro hle j hj
    obtain rfl : i = j := Cursor.next.inj (h.symm.trans hj)
    exact hle

theorem isCaughtUp_iff : log.isCaughtUp = true ↔ log.cursor = .next log.choices.length :=
  beq_iff_eq

theorem isReplaying_iff : log.isReplaying = true ↔ ∃ i, log.cursor = .next i := by
  cases hcursor : log.cursor <;> simp [isReplaying, hcursor]

theorem add_of_replaying (h : log.isReplaying = true) : log.add n = (log, false) :=
  if_pos h

theorem takeDue_of_none (h : log.due = none) : log.takeDue = (log, none) := by
  unfold takeDue
  rw [h]
  split <;> simp_all

theorem due_of_inside (h : log.cursor = .next i) (hlt : i < log.choices.length) :
    log.due = some log.choices[i] :=
  due_eq_some_iff.mpr ⟨i, h, List.getElem?_eq_getElem hlt⟩

theorem due_of_end (h : log.cursor = .next i) (hle : log.choices.length ≤ i) : log.due = none := by
  rw [due, h]
  exact List.getElem?_eq_none hle

/-! ### What an act does to the cursor -/

theorem isInside_add_iff : (log.add n).1.IsInside ↔ log.IsInside := by
  cases hreplaying : log.isReplaying with
  | true => rw [add_of_replaying hreplaying]
  | false =>
    have hlive : log.cursor = .live := by simpa [isReplaying] using hreplaying
    rw [add_of_live hlive]
    exact iff_of_true (isInside_of_live hlive) (isInside_of_live hlive)

theorem isInside_rewound (log : ChoiceLog) : log.rewound.IsInside := by
  by_cases hempty : log.choices = []
  · exact isInside_of_live (by simp [rewound, hempty])
  · exact (isInside_of_next (i := 0) (by simp [rewound, hempty])).mpr (Nat.zero_le _)

theorem isInside_takeDue_iff : log.takeDue.1.IsInside ↔ log.IsInside := by
  cases hdue : log.due with
  | none => rw [takeDue_of_none hdue]
  | some n =>
    obtain ⟨i, hcursor, hn, htake⟩ := takeDue_eq hdue
    obtain ⟨hlt, -⟩ := List.getElem?_eq_some_iff.mp hn
    rw [htake, isInside_of_next hcursor]
    exact iff_of_true ((isInside_of_next rfl).mpr hlt) (Nat.le_of_lt hlt)

theorem isInside_goLive_iff : log.goLive.1.IsInside ↔ log.IsInside := by
  cases hcaught : log.isCaughtUp with
  | false => rw [goLive, if_neg (by simp [hcaught])]
  | true =>
    have hcursor := isCaughtUp_iff.mp hcaught
    rw [goLive, if_pos hcaught, isInside_of_next hcursor]
    exact iff_of_true (isInside_of_live rfl) (Nat.le_refl _)

/-- To drop the last choice leaves the cursor inside the log unless it was behind that choice. -/
theorem isInside_dropLast_iff : log.dropLast.1.IsInside ↔ log.IsInside ∧ ¬ log.IsSpent := by
  cases hcursor : log.cursor with
  | live =>
    have hspent : ¬ log.IsSpent := by simp [IsSpent, isCaughtUp_iff, hcursor]
    exact iff_of_true (isInside_of_live hcursor) ⟨isInside_of_live hcursor, hspent⟩
  | next i =>
    have hleft : log.dropLast.1.cursor = .next i := hcursor
    have hdropped : log.dropLast.1.IsInside ↔ i ≤ log.choices.length - 1 := by
      rw [isInside_of_next hleft, dropLast, List.length_dropLast]
    have hspent : log.IsSpent ↔ i = log.choices.length ∧ 0 < log.choices.length := by
      rw [IsSpent, isCaughtUp_iff, hcursor, Cursor.next.injEq, ← List.length_pos_iff]
    rw [hdropped, isInside_of_next hcursor, hspent]
    omega

/-- An act puts the cursor inside the log, or leaves it where it stood, inside or not, unless it
drops the last choice of a log that is spent. -/
theorem isInside_act_iff (a : Act) :
    (log.act a).IsInside ↔
      a.resets = true ∨ log.IsInside ∧ (a = .dropLast → ¬ log.IsSpent) := by
  cases a with
  | add n => simpa [act, Act.resets] using isInside_add_iff
  | rewind => simpa [act, Act.resets] using log.isInside_rewound
  | takeDue => simpa [act, Act.resets] using isInside_takeDue_iff
  | goLive => simpa [act, Act.resets] using isInside_goLive_iff
  | clear => simpa [act, Act.resets] using isInside_of_live log.cursor_clear
  | dropLast => simpa [act, Act.resets] using isInside_dropLast_iff

/-- A part that ends with one more element ends where it did, or with that element. -/
theorem append_singleton_eq_append_cons_iff {α : Type} {as before after : List α} {a b : α} :
    as ++ [a] = before ++ b :: after ↔
      (after = [] ∧ as = before ∧ a = b) ∨
        ∃ after', after = after' ++ [a] ∧ as = before ++ b :: after' := by
  constructor
  · intro heq
    rcases List.eq_nil_or_concat after with rfl | ⟨after, c, rfl⟩
    · obtain ⟨rfl, hlast⟩ := List.append_inj' heq rfl
      exact .inl ⟨rfl, rfl, List.singleton_inj.mp hlast⟩
    · rw [List.concat_eq_append, ← List.cons_append, ← List.append_assoc] at heq
      obtain ⟨rfl, hlast⟩ := List.append_inj' heq rfl
      rw [List.singleton_inj.mp hlast]
      exact .inr ⟨after, List.concat_eq_append, rfl⟩
  · rintro (⟨rfl, rfl, rfl⟩ | ⟨after', rfl, rfl⟩)
    · rfl
    · simp

/-- The cursor is inside the log unless the last choice of a spent log was dropped since the cursor
was put at the beginning. -/
theorem isInside_acts_iff (as : List Act) :
    (({} : ChoiceLog).acts as).IsInside ↔
      ∀ before after, as = before ++ .dropLast :: after → (∀ a ∈ after, a.resets = false) →
        ¬ (({} : ChoiceLog).acts before).IsSpent := by
  induction as using List.reverseRecOn with
  | nil => exact iff_of_true (isInside_of_live rfl) (by simp)
  | append_singleton as a ih =>
    rw [acts_append_singleton, isInside_act_iff, ih]
    cases hresets : a.resets with
    | true =>
      refine iff_of_true (.inl rfl) fun before after heq hafter => ?_
      -- what resets the cursor neither drops a choice nor comes after the last reset
      rcases append_singleton_eq_append_cons_iff.mp heq with ⟨-, -, rfl⟩ | ⟨after', rfl, -⟩
      · contradiction
      · rw [hafter a (by simp)] at hresets
        contradiction
    | false =>
      constructor
      · rintro (hfalse | ⟨hbefore, hdrop⟩) before after heq hafter
        · contradiction
        · rcases append_singleton_eq_append_cons_iff.mp heq with
            ⟨rfl, rfl, hlast⟩ | ⟨after', rfl, has⟩
          · exact hdrop hlast
          · exact hbefore before after' has fun b hb => hafter b (List.mem_append_left _ hb)
      · intro hall
        refine .inr ⟨fun before after heq hafter => ?_, ?_⟩
        · have hlonger : as ++ [a] = before ++ .dropLast :: (after ++ [a]) :=
            append_singleton_eq_append_cons_iff.mpr (.inr ⟨after, rfl, heq⟩)
          refine hall before (after ++ [a]) hlonger fun b hb => ?_
          rcases List.mem_append.mp hb with hb | hb
          · exact hafter b hb
          · rwa [List.mem_singleton.mp hb]
        · rintro rfl
          exact hall as [] rfl (List.forall_mem_nil _)

/-! ### Going through the log -/

theorem unplayed_lt_of_takeDue {next : ChoiceLog} (h : log.takeDue = (next, some n)) :
    next.unplayed < log.unplayed := by
  have hless := log.unplayed_takeDue (congrArg Prod.snd h)
  rw [h] at hless
  exact Nat.lt_of_succ_le (Nat.le_of_eq hless)

/-- Take the choices that are due, one after the other, until none is. -/
def takeAll (log : ChoiceLog) : ChoiceLog × List Nat :=
  match htake : log.takeDue with
  | (last, none) => (last, [])
  | (next, some n) =>
    have := unplayed_lt_of_takeDue htake
    (next.takeAll.1, n :: next.takeAll.2)
termination_by log.unplayed

theorem takeAll_of_none (h : log.due = none) : log.takeAll = (log, []) := by
  have htake := takeDue_of_none h
  rw [takeAll]
  split
  · rename_i last hlast
    rw [htake] at hlast
    rw [(Prod.mk.inj hlast).1]
  · rename_i hsome
    rw [htake] at hsome
    simp at hsome

theorem takeAll_of_some {next : ChoiceLog} (h : log.takeDue = (next, some n)) :
    log.takeAll = (next.takeAll.1, n :: next.takeAll.2) := by
  rw [takeAll]
  split
  · rename_i hnone
    rw [h] at hnone
    simp at hnone
  · rename_i hsome
    rw [h] at hsome
    obtain ⟨rfl, hn⟩ := Prod.mk.inj hsome
    rw [Option.some.inj hn]

/-- Taking all choices leads behind the last one. -/
theorem takeAll_of_next (h : log.cursor = .next i) (hle : i ≤ log.choices.length) :
    log.takeAll = ({ log with cursor := .next log.choices.length }, log.choices.drop i) := by
  induction hrest : log.choices.length - i generalizing log i with
  | zero =>
    obtain rfl : i = log.choices.length := by omega
    rw [takeAll_of_none (due_of_end h (Nat.le_refl _)), List.drop_length, ← h]
  | succ rest ih =>
    have hlt : i < log.choices.length := by omega
    obtain ⟨j, hcursor, -, htake⟩ := takeDue_eq (due_of_inside h hlt)
    obtain rfl : i = j := Cursor.next.inj (h.symm.trans hcursor)
    let next : ChoiceLog := { log with cursor := .next (i + 1) }
    have hcursor' : next.cursor = .next (i + 1) := rfl
    have hnext := ih hcursor' hlt (by dsimp only [next]; omega)
    rw [takeAll_of_some htake, hnext, List.drop_eq_getElem_cons hlt]

theorem goLive_of_end (h : log.cursor = .next log.choices.length) :
    log.goLive = ({ log with cursor := .live }, true) :=
  if_pos (isCaughtUp_iff.mpr h)

/-- A log whose cursor is beyond its end is stuck. -/
theorem stuck_of_not_inside (h : ¬ log.IsInside) :
    log.isReplaying = true ∧ log.due = none ∧ log.goLive = (log, false) := by
  cases hcursor : log.cursor with
  | live => exact absurd (isInside_of_live hcursor) h
  | next i =>
    have hlt : log.choices.length < i := Nat.lt_of_not_le ((isInside_of_next hcursor).not.mp h)
    refine ⟨isReplaying_iff.mpr ⟨i, hcursor⟩, due_of_end hcursor (Nat.le_of_lt hlt), if_neg ?_⟩
    rw [isCaughtUp_iff, hcursor, Cursor.next.injEq]
    exact Nat.ne_of_gt hlt

/-- **When a log is gone through to its end.** Let any acts be done with a new log. The cursor is
not beyond the end of the log exactly if the last choice was never dropped, since the log was
rewound or cleared, when all choices had been taken again.

If it is not and the log is being taken again, then taking the choices that are due, until none is,
takes all that are left, and after them the story goes live and choices are added again. If it is,
nothing is taken, the story does not go live, and nothing is added. -/
theorem inside_iff_not_dropped_when_spent (as : List Act) :
    let log := ({} : ChoiceLog).acts as
    (log.IsInside ↔
      ∀ before after, as = before ++ .dropLast :: after → (∀ a ∈ after, a.resets = false) →
        ¬ (({} : ChoiceLog).acts before).IsSpent) ∧
    (log.IsInside → log.isReplaying = true →
      ∃ i ≤ log.choices.length, log.cursor = .next i ∧
        log.takeAll = ({ log with cursor := .next log.choices.length }, log.choices.drop i) ∧
        log.takeAll.1.goLive = ({ log with cursor := .live }, true) ∧
        ∀ n, log.takeAll.1.goLive.1.add n = (⟨log.choices ++ [n], .live⟩, true)) ∧
    (¬ log.IsInside → log.isReplaying = true ∧ log.takeAll = (log, []) ∧
      log.takeAll.1.goLive = (log, false) ∧ ∀ n, log.takeAll.1.goLive.1.add n = (log, false)) := by
  intro log
  refine ⟨isInside_acts_iff as, fun hinside hreplaying => ?_, fun hnot => ?_⟩
  · obtain ⟨i, hcursor⟩ := isReplaying_iff.mp hreplaying
    have htaken := takeAll_of_next hcursor (hinside i hcursor)
    have hlive : log.takeAll.1.goLive = ({ log with cursor := .live }, true) := by
      rw [htaken]
      exact goLive_of_end rfl
    refine ⟨i, hinside i hcursor, hcursor, htaken, hlive, fun n => ?_⟩
    rw [hlive]
    rfl
  · obtain ⟨hreplaying, hdue, hstuck⟩ := stuck_of_not_inside hnot
    have htaken := takeAll_of_none hdue
    refine ⟨hreplaying, htaken, ?_, fun n => ?_⟩
    · rw [htaken]
      exact hstuck
    · rw [htaken, hstuck]
      exact add_of_replaying hreplaying

/-- A log of three choices, one of which has been taken again before the last one is dropped, is
gone through to its end. -/
theorem inside_after_early_drop :
    let log := ({} : ChoiceLog).acts
      [.add 3, .add 5, .add 8, .rewind, .takeDue, .dropLast]
    log.IsInside ∧ log.isReplaying = true ∧ log.takeAll = (⟨[3, 5], .next 2⟩, [5]) ∧
      log.takeAll.1.goLive = (⟨[3, 5], .live⟩, true) ∧
      log.takeAll.1.goLive.1.add 9 = (⟨[3, 5, 9], .live⟩, true) := by
  intro log
  have hlog : log = ⟨[3, 5], .next 1⟩ := rfl
  obtain ⟨-, hgoes, -⟩ := inside_iff_not_dropped_when_spent
    [.add 3, .add 5, .add 8, .rewind, .takeDue, .dropLast]
  have hinside : log.IsInside := (isInside_of_next (i := 1) rfl).mpr (by decide)
  obtain ⟨i, -, hcursor, htaken, hlive, hadd⟩ := hgoes hinside rfl
  obtain rfl : 1 = i := Cursor.next.inj hcursor
  exact ⟨hinside, rfl, htaken, hlive, hadd 9⟩

/-- The last choice is dropped after all choices have been taken again. -/
theorem drop_when_spent_leaves_log :
    let log := ({} : ChoiceLog).acts [.add 1, .rewind, .takeDue, .dropLast]
    log = ⟨[], .next 1⟩ ∧ ¬ log.IsInside ∧ log.isReplaying = true ∧ log.takeAll = (log, []) ∧
      log.goLive = (log, false) ∧ log.add 2 = (log, false) := by
  intro log
  have hnot : ¬ log.IsInside := fun hinside => absurd (hinside 1 rfl) (by decide)
  exact ⟨rfl, hnot, rfl, takeAll_of_none rfl, rfl, rfl⟩

theorem Tracks.isInside {sent : List Nat} (h : log.Tracks sent) : log.IsInside :=
  fun _ hcursor => ((tracks_of_next hcursor).mp h).1

end ChoiceLog

/-- A director rewinds the log whenever it drops the last choice, so its cursor is never beyond the
end of the log between two turns. -/
theorem Director.isInside_log_run {F : Type} [Frontend F] (front : F) (hs : List (Happening F)) :
    ((opening front).run hs).state.log.IsInside :=
  (onPath_run front hs).tracks.isInside

end Playthrough
