import Mathlib.Data.List.TakeWhile
import Playthrough.Text.Blank

/-!
# Words of a text

A text is cut into its words at the blanks. A word has no blank in it and is not empty, and it goes
on as far as it can: behind it the text ends, or there is a blank. This determines the words of a
text, so that they can be found without following the cuts one by one.

Trimming takes the blanks away at both ends of a text and leaves the words alone. What is left is
the only word if there is one word, and begins with the first word in any case.

## Main definitions

* `Text.IsWords` — some pieces are the words of a text.
* `Text.IsTrimmed` — a text without the blanks at its ends.

## Main results

* `Text.isWords_iff` — the words of a text are determined.
* `Text.isTrimmed_iff` — so is the trimmed text.
* `Text.words_trim` — a trimmed text has the same words.
* `Text.words_eq_singleton_iff` — the texts with one word.
-/

namespace Playthrough

namespace Text

/-! ### Digits -/

theorem bounds_of_isDigit {c : Char} (h : c.isDigit = true) : 0x30 ≤ c.toNat ∧ c.toNat ≤ 0x39 := by
  simpa [Char.isDigit, UInt32.le_iff_toNat_le] using h

theorem isBlank_of_isDigit {c : Char} (h : c.isDigit = true) : isBlank c = false := by
  obtain ⟨hge, hle⟩ := bounds_of_isDigit h
  simp [isBlank]
  omega

/-! ### Words -/

/-- The pieces `ws` are the words of a text: they are not empty, have no blanks in them and nothing
but blanks around them, and end where the text ends or a blank follows. -/
inductive IsWords : List Char → List (List Char) → Prop where
  | nil {gap : List Char} (blank : ∀ c ∈ gap, isBlank c = true) : IsWords gap []
  | cons {gap w cs : List Char} {ws : List (List Char)} (blank : ∀ c ∈ gap, isBlank c = true)
      (nonempty : w ≠ []) (solid : ∀ c ∈ w, isBlank c = false)
      (ends : ∀ c ∈ cs.head?, isBlank c = true) (rest : IsWords cs ws) :
      IsWords (gap ++ (w ++ cs)) (w :: ws)

variable {gap w cs : List Char} {ws : List (List Char)} {c d : Char}

theorem words_gap_append (h : ∀ c ∈ gap, isBlank c = true) (cs : List Char) :
    words (gap ++ cs) = words cs := by
  induction gap with
  | nil => rfl
  | cons c gap ih =>
    rw [List.forall_mem_cons] at h
    rw [List.cons_append, words_cons_of_isBlank h.1, ih h.2]

/-- A word at the front of a text. -/
theorem words_append_of_solid (hne : w ≠ []) (hw : ∀ c ∈ w, isBlank c = false)
    (hends : ∀ c ∈ cs.head?, isBlank c = true) : words (w ++ cs) = w :: words cs := by
  induction w with
  | nil => exact absurd rfl hne
  | cons c w ih =>
    rw [List.forall_mem_cons] at hw
    rw [List.cons_append, words, if_neg (by simp [hw.1])]
    cases w with
    | nil =>
      have hall : cs.head?.all isBlank = true := by
        cases cs with
        | nil => rfl
        | cons d cs => exact hends d rfl
      rw [List.nil_append, if_pos hall]
    | cons d w =>
      have hd : isBlank d = false := hw.2 d List.mem_cons_self
      rw [if_neg (by simp [hd]), ih (List.cons_ne_nil d w) hw.2]
      rfl

theorem IsWords.words_eq (h : IsWords cs ws) : words cs = ws := by
  induction h with
  | @nil gap blank =>
    have hwords := words_gap_append blank []
    rwa [List.append_nil] at hwords
  | cons blank nonempty solid ends rest ih =>
    rw [words_gap_append blank, words_append_of_solid nonempty solid ends, ih]

theorem IsWords.cons_of_blank (hc : isBlank c = true) (h : IsWords cs ws) :
    IsWords (c :: cs) ws := by
  cases h with
  | nil blank => exact .nil (List.forall_mem_cons.mpr ⟨hc, blank⟩)
  | cons blank nonempty solid ends rest =>
    exact .cons (List.forall_mem_cons.mpr ⟨hc, blank⟩) nonempty solid ends rest

/-- A character in front of a word joins it. -/
theorem IsWords.cons_of_solid (hc : isBlank c = false) (hd : isBlank d = false)
    (h : IsWords (d :: cs) ws) : IsWords (c :: d :: cs) (extendFirst c ws) := by
  generalize htext : d :: cs = text at h
  cases h with
  | nil blank =>
    have hblank := blank d (htext ▸ List.mem_cons_self)
    rw [hd] at hblank
    contradiction
  | @cons gap w rest ws blank nonempty solid ends hrest =>
    cases gap with
    | nil =>
      exact .cons (List.forall_mem_nil _) (List.cons_ne_nil c w)
        (List.forall_mem_cons.mpr ⟨hc, solid⟩) ends hrest
    | cons e gap =>
      obtain ⟨rfl, -⟩ := List.cons.inj htext
      rw [blank d List.mem_cons_self] at hd
      contradiction

theorem isWords_words (cs : List Char) : IsWords cs (words cs) := by
  induction cs with
  | nil => exact .nil (List.forall_mem_nil _)
  | cons c cs ih =>
    cases hc : isBlank c with
    | true =>
      rw [words_cons_of_isBlank hc]
      exact ih.cons_of_blank hc
    | false =>
      rw [words, if_neg (by simp [hc])]
      split
      · next hall =>
        have hends : ∀ d ∈ cs.head?, isBlank d = true := fun d hd => by
          rw [Option.mem_def] at hd
          rwa [hd] at hall
        exact .cons (List.forall_mem_nil _) (List.cons_ne_nil c [])
          (List.forall_mem_singleton.mpr hc) hends ih
      · next hall =>
        cases cs with
        | nil => exact absurd rfl hall
        | cons d cs => exact ih.cons_of_solid hc (by simpa using hall)

/-- The words of a text are determined by what they are. -/
theorem isWords_iff : IsWords cs ws ↔ words cs = ws := by
  constructor
  · exact IsWords.words_eq
  · rintro rfl
    exact isWords_words cs

theorem words_eq_nil_iff : words cs = [] ↔ ∀ c ∈ cs, isBlank c = true := by
  rw [← isWords_iff]
  constructor
  · rintro ⟨blank⟩
    exact blank
  · exact .nil

/-! ### Trimmed texts -/

/-- The text `t` is the text `cs` without the blanks at its ends. -/
def IsTrimmed (cs t : List Char) : Prop :=
  ∃ front back : List Char, cs = front ++ (t ++ back) ∧ (∀ c ∈ front, isBlank c = true) ∧
    (∀ c ∈ back, isBlank c = true) ∧ (∀ c ∈ t.head?, isBlank c = false) ∧
    ∀ c ∈ t.getLast?, isBlank c = false

theorem trimStart_gap_append (h : ∀ c ∈ gap, isBlank c = true) (cs : List Char) :
    trimStart (gap ++ cs) = trimStart cs := by
  rw [trimStart, List.dropWhile_append_of_pos h, trimStart]

theorem trimEnd_append_gap (h : ∀ c ∈ gap, isBlank c = true) (cs : List Char) :
    trimEnd (cs ++ gap) = trimEnd cs := by
  have hreverse : ∀ c ∈ gap.reverse, isBlank c = true := fun c hc => h c (List.mem_reverse.mp hc)
  rw [trimEnd, List.reverse_append, List.dropWhile_append_of_pos hreverse, trimEnd]

theorem trimStart_of_head? (h : ∀ c ∈ cs.head?, isBlank c = false) : trimStart cs = cs := by
  cases cs with
  | nil => rfl
  | cons c cs => exact List.dropWhile_cons_of_neg (by simp [h c rfl])

theorem trimEnd_of_getLast? (h : ∀ c ∈ cs.getLast?, isBlank c = false) : trimEnd cs = cs := by
  have hreverse : ∀ c ∈ cs.reverse.head?, isBlank c = false := by
    rwa [List.head?_reverse]
  rw [trimEnd, ← trimStart, trimStart_of_head? hreverse, List.reverse_reverse]

theorem exists_trimStart (cs : List Char) : ∃ front, cs = front ++ trimStart cs ∧
    (∀ c ∈ front, isBlank c = true) ∧ ∀ c ∈ (trimStart cs).head?, isBlank c = false := by
  refine ⟨cs.takeWhile isBlank, ?_, fun c hc => List.mem_takeWhile_imp hc, fun c hc => ?_⟩
  · exact List.takeWhile_append_dropWhile.symm
  · have hhead := List.head?_dropWhile_not isBlank cs
    rw [← trimStart, Option.mem_def.mp hc] at hhead
    exact hhead

theorem exists_trimEnd (cs : List Char) : ∃ back, cs = trimEnd cs ++ back ∧
    (∀ c ∈ back, isBlank c = true) ∧ ∀ c ∈ (trimEnd cs).getLast?, isBlank c = false := by
  obtain ⟨front, hcs, hfront, hhead⟩ := exists_trimStart cs.reverse
  refine ⟨front.reverse, ?_, fun c hc => hfront c (List.mem_reverse.mp hc), fun c hc => ?_⟩
  · have hreverse := congrArg List.reverse hcs
    rwa [List.reverse_append, List.reverse_reverse] at hreverse
  · refine hhead c ?_
    rwa [trimEnd, List.getLast?_reverse] at hc

theorem isTrimmed_trim (cs : List Char) : IsTrimmed cs (trim cs) := by
  obtain ⟨front, hcs, hfront, hhead⟩ := exists_trimStart cs
  obtain ⟨back, hstart, hback, hlast⟩ := exists_trimEnd (trimStart cs)
  refine ⟨front, back, ?_, hfront, hback, fun c hc => hhead c ?_, hlast⟩
  · rw [trim, ← hstart, ← hcs]
  · rw [hstart, List.head?_append, ← trim, Option.mem_def.mp hc]
    rfl

/-- The trimmed text is determined by what it is. -/
theorem isTrimmed_iff {t : List Char} : IsTrimmed cs t ↔ trim cs = t := by
  constructor
  · rintro ⟨front, back, rfl, hfront, hback, hhead, hlast⟩
    cases t with
    | nil =>
      have hblank : ∀ c ∈ front ++ back, isBlank c = true := fun c hc =>
        (List.mem_append.mp hc).elim (hfront c) (hback c)
      rw [List.nil_append, trim, trimStart, List.dropWhile_eq_nil_iff.mpr hblank, trimEnd_nil]
    | cons c t =>
      have hstart : trimStart (c :: t ++ back) = c :: t ++ back :=
        trimStart_of_head? fun d hd => hhead d hd
      rw [trim, trimStart_gap_append hfront, hstart, trimEnd_append_gap hback,
        trimEnd_of_getLast? hlast]
  · rintro rfl
    exact isTrimmed_trim cs

/-! ### Words of trimmed texts -/

theorem words_append_gap (h : ∀ c ∈ gap, isBlank c = true) (cs : List Char) :
    words (cs ++ gap) = words cs := by
  have hgap : words gap = [] := words_eq_nil_iff.mpr h
  induction cs with
  | nil => exact hgap
  | cons c cs ih =>
    have hhead : (cs ++ gap).head?.all isBlank = cs.head?.all isBlank := by
      cases cs with
      | cons d cs => rfl
      | nil =>
        cases gap with
        | nil => rfl
        | cons d gap => exact h d List.mem_cons_self
    rw [List.cons_append, words, words, ih, hhead]

theorem words_trim (cs : List Char) : words (trim cs) = words cs := by
  obtain ⟨front, back, hcs, hfront, hback, -, -⟩ := isTrimmed_trim cs
  calc words (trim cs)
    _ = words (front ++ (trim cs ++ back)) := by
      rw [words_gap_append hfront, words_append_gap hback]
    _ = words cs := by rw [← hcs]

theorem trim_eq_nil_iff : trim cs = [] ↔ words cs = [] := by
  constructor
  · intro h
    rw [← words_trim, h, words_nil]
  · intro h
    refine isTrimmed_iff.mp ⟨cs, [], by simp, words_eq_nil_iff.mp h, ?_, ?_, ?_⟩
    · exact List.forall_mem_nil _
    · simp
    · simp

/-- A trimmed text begins with its first word. -/
theorem head?_trim (h : words cs = w :: ws) : (trim cs).head? = w.head? := by
  obtain ⟨-, -, -, -, -, hhead, -⟩ := isTrimmed_trim cs
  have hwords : IsWords (trim cs) (w :: ws) := isWords_iff.mpr ((words_trim cs).trans h)
  generalize trim cs = t at hwords hhead
  cases hwords with
  | @cons gap w rest ws blank nonempty solid ends hrest =>
    obtain ⟨c, w, rfl⟩ := List.exists_cons_of_ne_nil nonempty
    cases gap with
    | nil => rfl
    | cons d gap =>
      have hd := hhead d rfl
      rw [blank d List.mem_cons_self] at hd
      contradiction

/-- A text has one word exactly if there is no blank between the ends of what is left when it is
trimmed. -/
theorem words_eq_singleton_iff :
    words cs = [w] ↔ trim cs = w ∧ w ≠ [] ∧ ∀ c ∈ w, isBlank c = false := by
  constructor
  · intro h
    generalize hws : [w] = ws at h
    cases isWords_iff.mpr h with
    | nil => contradiction
    | @cons gap w' rest ws blank nonempty solid ends hrest =>
      obtain ⟨rfl, rfl⟩ := List.cons.inj hws
      have hrest : ∀ c ∈ rest, isBlank c = true := words_eq_nil_iff.mp hrest.words_eq
      refine ⟨isTrimmed_iff.mp ⟨gap, rest, rfl, blank, hrest, ?_, ?_⟩, nonempty, solid⟩
      · exact fun c hc => solid c (List.mem_of_head? hc)
      · exact fun c hc => solid c (List.mem_of_getLast? hc)
  · rintro ⟨rfl, hne, hsolid⟩
    have hwords : words (trim cs ++ []) = trim cs :: words [] :=
      words_append_of_solid hne hsolid (by simp)
    rwa [List.append_nil, words_trim] at hwords

end Text

end Playthrough
