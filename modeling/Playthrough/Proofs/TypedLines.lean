import Mathlib.Algebra.Group.Nat.Defs
import Playthrough.InputLine
import Playthrough.Proofs.Words

/-!
# What typed lines mean

A line that is typed has a meaning that its words determine: a number is a choice, some words that
begin with a colon are commands, and any other line is kept without the blanks around it. Every
command is one word, except `:line`, which has the number of a line behind it.

This grammar is documented for lines with these words and no others. It holds of all lines but one
sort: a line is still a command to go to a line if further words stand behind the number.

## Main definitions

* `Text.IsNumber` — a text is a number of one machine word.
* `InputLine.IsCommand` — some words are a command.
* `InputLine.IsDocumented` — a line has the documented meaning.
* `InputLine.HasSurplus` — there are words behind a command to go to a line.

## Main results

* `Text.readWord?_eq_some_iff` — the texts that are read as numbers.
* `InputLine.ofWords_eq_some_iff` — the words that are understood as commands.
* `InputLine.parse?_eq` — the meaning of a line by its words.
* `InputLine.documented_iff_not_surplus` — which lines have the documented meaning.
-/

namespace Playthrough

/-! ### Numbers -/

namespace Text

/-- An optional plus sign and one or more ASCII digits, with the value `n` below `2 ^ 64`. -/
def IsNumber (cs : List Char) (n : ℕ) : Prop :=
  ∃ ds, (cs = ds ∨ cs = '+' :: ds) ∧ ds ≠ [] ∧ (∀ d ∈ ds, d.isDigit = true) ∧
    Nat.ofDigitChars 10 ds 0 = n ∧ n < 2 ^ 64

variable {cs : List Char} {n : ℕ}

theorem isDigits_iff : isDigits cs = true ↔ cs ≠ [] ∧ ∀ d ∈ cs, d.isDigit = true := by
  simp [isDigits]

theorem dropPlus_of_digits (h : ∀ d ∈ cs, d.isDigit = true) : dropPlus cs = cs := by
  unfold dropPlus
  split
  · have hplus := h '+' List.mem_cons_self
    contradiction
  · rfl

theorem eq_or_eq_dropPlus (cs : List Char) : cs = dropPlus cs ∨ cs = '+' :: dropPlus cs := by
  unfold dropPlus
  split
  · exact .inr rfl
  · exact .inl rfl

/-- Exactly the numbers are read, with their values. -/
theorem readWord?_eq_some_iff : readWord? cs = some n ↔ IsNumber cs n := by
  have hlimit : wordLimit = 2 ^ 64 := rfl
  simp only [readWord?, Option.ite_none_right_eq_some, Bool.and_eq_true, decide_eq_true_eq,
    isDigits_iff, Option.some.injEq, digitsValue, hlimit]
  constructor
  · rintro ⟨⟨⟨hne, hdigits⟩, hlt⟩, rfl⟩
    exact ⟨dropPlus cs, eq_or_eq_dropPlus cs, hne, hdigits, rfl, hlt⟩
  · rintro ⟨ds, hcs, hne, hdigits, rfl, hlt⟩
    have hdrop : dropPlus cs = ds := by
      rcases hcs with rfl | rfl
      · exact dropPlus_of_digits hdigits
      · rfl
    rw [hdrop]
    exact ⟨⟨⟨hne, hdigits⟩, hlt⟩, rfl⟩

/-- A number is one word, and no command. -/
theorem IsNumber.solid (h : IsNumber cs n) :
    cs ≠ [] ∧ ∀ c ∈ cs, isBlank c = false ∧ c ≠ ':' := by
  obtain ⟨ds, hcs, hne, hdigits, -, -⟩ := h
  have hsolid : ∀ c ∈ ds, isBlank c = false ∧ c ≠ ':' := by
    intro c hc
    refine ⟨isBlank_of_isDigit (hdigits c hc), ?_⟩
    rintro rfl
    exact absurd (hdigits ':' hc) (by decide)
  rcases hcs with rfl | rfl
  · exact ⟨hne, hsolid⟩
  · exact ⟨List.cons_ne_nil _ _, List.forall_mem_cons.mpr ⟨by decide, hsolid⟩⟩

end Text

namespace InputLine

open Text

/-! ### Commands -/

/-- The commands of one word. -/
def oneWordCommands : List (String × InputLine) :=
  [(":rewind", .rewind), (":back", .back), (":next", .nextIssue), (":issues", .issues),
    (":help", .help), (":quit", .quit), (":q", .quit)]

/-- Some words are understood as a command. -/
inductive IsCommand : List String → InputLine → Prop where
  | word {c : String} {i : InputLine} (listed : (c, i) ∈ oneWordCommands) : IsCommand [c] i
  | line {d : String} {rest : List String} {n : ℕ} (number : IsNumber d.toList n) (pos : 0 < n) :
      IsCommand (":line" :: d :: rest) (.line n)

variable {w : List String} {i : InputLine}

theorem ofWords_eq_some_iff : ofWords w = some i ↔ IsCommand w i := by
  constructor
  · intro h
    unfold ofWords at h
    split at h
    iterate 7
      · obtain rfl := Option.some.inj h
        exact .word (by decide)
    · split at h
      · next hnumber =>
        obtain rfl := Option.some.inj h
        exact .line (readWord?_eq_some_iff.mp hnumber) (Nat.succ_pos _)
      · contradiction
    · contradiction
  · intro h
    cases h with
    | word listed =>
      have hall : ∀ p ∈ oneWordCommands, ofWords [p.1] = some p.2 := by decide
      exact hall _ listed
    | @line d rest n number pos =>
      obtain ⟨k, rfl⟩ := Nat.exists_eq_succ_of_ne_zero (Nat.ne_of_gt pos)
      rw [ofWords, readWord?_eq_some_iff.mpr number]

namespace IsCommand

/-- The first word of a command begins with a colon. -/
theorem exists_head (h : IsCommand w i) :
    ∃ word rest, w = word :: rest ∧ word.toList.head? = some ':' := by
  cases h with
  | word listed =>
    have hall : ∀ p ∈ oneWordCommands, p.1.toList.head? = some ':' := by decide
    exact ⟨_, [], rfl, hall _ listed⟩
  | line number pos => exact ⟨_, _, rfl, rfl⟩

theorem ne_choose (h : IsCommand w i) (n : ℕ) : i ≠ .choose n := by
  rintro rfl
  cases h with
  | word listed => simp [oneWordCommands] at listed

theorem ne_unknown (h : IsCommand w i) (t : String) : i ≠ .unknown t := by
  rintro rfl
  cases h with
  | word listed => simp [oneWordCommands] at listed

end IsCommand

/-! ### Lines -/

/-- The words of a line. -/
def wordsOf (line : String) : List String :=
  (words line.toList).map String.ofList

/-- A line without the blanks at its ends. -/
def trimmed (line : String) : String :=
  .ofList (trim line.toList)

variable {line : String}

theorem wordsOf_eq_nil_iff : wordsOf line = [] ↔ trim line.toList = [] := by
  rw [wordsOf, List.map_eq_nil_iff, trim_eq_nil_iff]

/-- A line with one word is that word when it is trimmed. -/
theorem wordsOf_eq_singleton_iff {d : String} :
    wordsOf line = [d] ↔
      trim line.toList = d.toList ∧ d.toList ≠ [] ∧ ∀ c ∈ d.toList, isBlank c = false := by
  rw [← words_eq_singleton_iff, wordsOf, List.map_eq_singleton_iff]
  constructor
  · rintro ⟨cs, hwords, rfl⟩
    rwa [String.toList_ofList]
  · intro hwords
    exact ⟨d.toList, hwords, String.ofList_toList⟩

/-- A line that is a number has no other words. -/
theorem isNumber_trim_iff {n : ℕ} :
    IsNumber (trim line.toList) n ↔ ∃ d : String, wordsOf line = [d] ∧ IsNumber d.toList n := by
  constructor
  · intro h
    obtain ⟨hne, hsolid⟩ := h.solid
    refine ⟨trimmed line, ?_, by rwa [trimmed, String.toList_ofList]⟩
    rw [wordsOf_eq_singleton_iff, trimmed, String.toList_ofList]
    exact ⟨rfl, hne, fun c hc => (hsolid c hc).1⟩
  · rintro ⟨d, hwords, h⟩
    rwa [(wordsOf_eq_singleton_iff.mp hwords).1]

/-- A line with the words of a command begins with a colon. -/
theorem head?_of_isCommand (h : IsCommand (wordsOf line) i) :
    (trim line.toList).head? = some ':' := by
  obtain ⟨word, rest, hwords, hhead⟩ := h.exists_head
  obtain ⟨w, ws, hline, rfl, -⟩ := List.map_eq_cons_iff.mp hwords
  rw [head?_trim hline, ← hhead, String.toList_ofList]

/-- A line is no number if its words are a command. -/
theorem not_isNumber_of_isCommand (h : IsCommand (wordsOf line) i) (n : ℕ) :
    ¬ IsNumber (trim line.toList) n := fun hnumber =>
  (hnumber.solid.2 ':' (List.mem_of_head? (head?_of_isCommand h))).2 rfl

/-- The meaning of a line by its words. -/
theorem parse?_eq (line : String) :
    parse? line =
      if wordsOf line = [] then none
      else
        match readWord? (trim line.toList) with
        | some n => some (.choose n)
        | none => some ((ofWords (wordsOf line)).getD (.unknown (trimmed line))) := by
  have hwords : (words (trim line.toList)).map String.ofList = wordsOf line := by
    rw [words_trim, wordsOf]
  have hnil : wordsOf line = [] ↔ trim line.toList = [] := wordsOf_eq_nil_iff
  have hhead : ∀ i, ofWords (wordsOf line) = some i → (trim line.toList).head? = some ':' :=
    fun i hi => head?_of_isCommand (ofWords_eq_some_iff.mp hi)
  unfold parse? trimmed
  cases htrim : trim line.toList with
  | nil => rw [if_pos (hnil.mpr htrim)]
  | cons c cs =>
    rw [htrim] at hwords hhead
    rw [if_neg (by rw [hnil, htrim]; exact List.cons_ne_nil c cs)]
    dsimp only
    unfold ofTrimmed
    rw [hwords]
    cases readWord? (c :: cs) with
    | some n => rfl
    | none =>
      cases hcommand : ofWords (wordsOf line) with
      | none => simp
      | some i => simp [hhead i hcommand]

theorem parse?_eq_none_iff : parse? line = none ↔ wordsOf line = [] := by
  rw [parse?_eq]
  split_ifs with hnil
  · simp [hnil]
  · split <;> simp [hnil]

/-- A number is chosen exactly if it is the only word. -/
theorem parse?_eq_choose_iff {n : ℕ} :
    parse? line = some (.choose n) ↔ ∃ d : String, wordsOf line = [d] ∧ IsNumber d.toList n := by
  rw [← isNumber_trim_iff, ← readWord?_eq_some_iff, parse?_eq]
  split_ifs with hnil
  · rw [wordsOf_eq_nil_iff.mp hnil]
    simp [readWord?, dropPlus, isDigits]
  · cases hread : readWord? (trim line.toList) with
    | some m => simp
    | none =>
      have hcommand : ∀ i, ofWords (wordsOf line) = some i → i ≠ .choose n := fun i hi =>
        (ofWords_eq_some_iff.mp hi).ne_choose n
      cases hi : ofWords (wordsOf line) with
      | none => simp
      | some i => simpa using hcommand i hi

theorem parse?_of_isCommand (h : IsCommand (wordsOf line) i) : parse? line = some i := by
  have hnil : wordsOf line ≠ [] := by
    obtain ⟨word, rest, hwords, -⟩ := h.exists_head
    rw [hwords]
    exact List.cons_ne_nil word rest
  have hread : readWord? (trim line.toList) = none :=
    Option.eq_none_iff_forall_ne_some.mpr fun n hn =>
      not_isNumber_of_isCommand h n (readWord?_eq_some_iff.mp hn)
  rw [parse?_eq, if_neg hnil, hread, ofWords_eq_some_iff.mpr h]
  rfl

/-- Only words of a command have the meaning of a command. -/
theorem isCommand_of_parse? (h : parse? line = some i) (hchoose : ∀ n, i ≠ .choose n)
    (hunknown : i ≠ .unknown (trimmed line)) : IsCommand (wordsOf line) i := by
  rw [parse?_eq] at h
  split_ifs at h
  cases hread : readWord? (trim line.toList) with
  | some n =>
    rw [hread] at h
    exact absurd (Option.some.inj h).symm (hchoose n)
  | none =>
    rw [hread] at h
    cases hi : ofWords (wordsOf line) with
    | none =>
      rw [hi] at h
      exact absurd (Option.some.inj h).symm hunknown
    | some j =>
      rw [hi] at h
      obtain rfl : j = i := Option.some.inj h
      exact ofWords_eq_some_iff.mp hi

/-- A line that is neither blank nor a number nor a command is kept. -/
theorem parse?_eq_unknown_iff {s : String} :
    parse? line = some (.unknown s) ↔ s = trimmed line ∧ wordsOf line ≠ [] ∧
      (∀ (d : String) (n : ℕ), wordsOf line = [d] → ¬ IsNumber d.toList n) ∧
      ∀ i, ¬ IsCommand (wordsOf line) i := by
  constructor
  · intro h
    have hcommand : ∀ i, ¬ IsCommand (wordsOf line) i := by
      intro i hi
      rw [parse?_of_isCommand hi] at h
      exact hi.ne_unknown s (Option.some.inj h)
    refine ⟨?_, fun hnil => ?_, fun d n hd hnumber => ?_, hcommand⟩
    · by_contra hne
      refine hcommand _ (isCommand_of_parse? h (fun n => ?_) fun heq => hne ?_)
      · simp
      · exact InputLine.unknown.inj heq
    · rw [parse?_eq_none_iff.mpr hnil] at h
      contradiction
    · rw [parse?_eq_choose_iff.mpr ⟨d, hd, hnumber⟩] at h
      simp at h
  · rintro ⟨rfl, hnil, hnumber, hcommand⟩
    obtain ⟨i, hi⟩ := Option.ne_none_iff_exists'.mp (parse?_eq_none_iff.not.mpr hnil)
    by_contra hne
    refine hcommand i (isCommand_of_parse? hi (fun n => ?_) fun heq => hne (heq ▸ hi))
    rintro rfl
    obtain ⟨d, hd, hd'⟩ := parse?_eq_choose_iff.mp hi
    exact hnumber d n hd hd'

theorem parse?_eq_some_iff (hchoose : ∀ n, i ≠ .choose n) (hunknown : ∀ t, i ≠ .unknown t) :
    parse? line = some i ↔ IsCommand (wordsOf line) i :=
  ⟨fun h => isCommand_of_parse? h hchoose (hunknown _), parse?_of_isCommand⟩

/-! ### The documented grammar -/

/-- The meaning `m` of a line with the words `w`, and with the text `t` when it is trimmed, is the
documented one. -/
structure IsDocumented (w : List String) (t : String) (m : Option InputLine) : Prop where
  none : m = none ↔ w = []
  choose : ∀ n, m = some (.choose n) ↔ ∃ d : String, w = [d] ∧ IsNumber d.toList n
  command : ∀ i ∈ oneWordCommands.map Prod.snd,
    m = some i ↔ ∃ c, (c, i) ∈ oneWordCommands ∧ w = [c]
  line : ∀ n, m = some (.line n) ↔ 0 < n ∧ ∃ d : String, w = [":line", d] ∧ IsNumber d.toList n
  unknown : ∀ s, m = some (.unknown s) ↔ s = t ∧ w ≠ [] ∧
    (∀ (d : String) (n : ℕ), w = [d] → ¬ IsNumber d.toList n) ∧
    (∀ p ∈ oneWordCommands, w ≠ [p.1]) ∧
    ∀ (d : String) (n : ℕ), w = [":line", d] → IsNumber d.toList n → n = 0

/-- There are more words behind the number of a line to go to. -/
def HasSurplus (w : List String) : Prop :=
  ∃ (d e : String) (rest : List String) (n : ℕ),
    w = ":line" :: d :: e :: rest ∧ IsNumber d.toList n ∧ 0 < n

theorem isCommand_word_iff (hi : i ∈ oneWordCommands.map Prod.snd) :
    IsCommand w i ↔ ∃ c, (c, i) ∈ oneWordCommands ∧ w = [c] := by
  constructor
  · intro h
    cases h with
    | word listed => exact ⟨_, listed, rfl⟩
    | line number pos => simp [oneWordCommands] at hi
  · rintro ⟨c, listed, rfl⟩
    exact .word listed

theorem isCommand_line_iff {n : ℕ} (hsurplus : ¬ HasSurplus w) :
    IsCommand w (.line n) ↔ 0 < n ∧ ∃ d : String, w = [":line", d] ∧ IsNumber d.toList n := by
  constructor
  · intro h
    cases h with
    | word listed => simp [oneWordCommands] at listed
    | @line d rest _ number pos =>
      cases rest with
      | nil => exact ⟨pos, d, rfl, number⟩
      | cons e rest => exact absurd ⟨d, e, rest, n, rfl, number, pos⟩ hsurplus
  · rintro ⟨pos, d, rfl, number⟩
    exact .line number pos

/-- The words without surplus that are no command. -/
theorem forall_not_isCommand_iff (hsurplus : ¬ HasSurplus w) :
    (∀ i, ¬ IsCommand w i) ↔ (∀ p ∈ oneWordCommands, w ≠ [p.1]) ∧
      ∀ (d : String) (n : ℕ), w = [":line", d] → IsNumber d.toList n → n = 0 := by
  constructor
  · intro h
    refine ⟨?_, ?_⟩
    · rintro p hp rfl
      exact h p.2 (.word hp)
    · rintro d n rfl hnumber
      by_contra hn
      exact h _ (.line hnumber (Nat.pos_of_ne_zero hn))
  · rintro ⟨hword, hline⟩ i h
    cases h with
    | word listed => exact hword _ listed rfl
    | @line d rest n number pos =>
      cases rest with
      | nil => exact absurd (hline d n rfl number) (Nat.ne_of_gt pos)
      | cons e rest => exact hsurplus ⟨d, e, rest, n, rfl, number, pos⟩

/-- Lines without surplus have the documented meaning. -/
theorem isDocumented_of_not_surplus (hsurplus : ¬ HasSurplus (wordsOf line)) :
    IsDocumented (wordsOf line) (trimmed line) (parse? line) where
  none := parse?_eq_none_iff
  choose n := parse?_eq_choose_iff
  command i hi := by
    rw [parse?_eq_some_iff, isCommand_word_iff hi]
    · rintro n rfl
      simp [oneWordCommands] at hi
    · rintro t rfl
      simp [oneWordCommands] at hi
  line n := by
    rw [parse?_eq_some_iff (by simp) (by simp), isCommand_line_iff hsurplus]
  unknown s := by
    rw [parse?_eq_unknown_iff, forall_not_isCommand_iff hsurplus]

/-- A command to go to a line is still one with more words behind the number. -/
theorem parse?_line {d : String} {rest : List String} {n : ℕ}
    (hwords : wordsOf line = ":line" :: d :: rest) (hnumber : IsNumber d.toList n) (hn : 0 < n) :
    parse? line = some (.line n) := by
  refine parse?_of_isCommand ?_
  rw [hwords]
  exact .line hnumber hn

/-- **The grammar of typed lines.** The words of a line are its pieces without blanks, and a trimmed
line has lost the blanks at its ends and nothing else. These give a line its documented meaning
exactly if no more words stand behind the number of a line to go to. A line with more words there
is a command to go to that line all the same. -/
theorem documented_iff_not_surplus (line : String) :
    IsWords line.toList (words line.toList) ∧
      wordsOf line = (words line.toList).map String.ofList ∧
      IsTrimmed line.toList (trimmed line).toList ∧
      (IsDocumented (wordsOf line) (trimmed line) (parse? line) ↔ ¬ HasSurplus (wordsOf line)) ∧
      ∀ (d : String) (rest : List String) (n : ℕ), wordsOf line = ":line" :: d :: rest →
        IsNumber d.toList n → 0 < n → parse? line = some (.line n) := by
  refine ⟨isWords_words _, rfl, ?_, ?_, fun d rest n => parse?_line⟩
  · rw [trimmed, String.toList_ofList]
    exact isTrimmed_trim _
  · constructor
    · rintro hdocumented ⟨d, e, rest, n, hwords, hnumber, hn⟩
      have hline := parse?_line hwords hnumber hn
      obtain ⟨-, d', hwords', -⟩ := (hdocumented.line n).mp hline
      rw [hwords'] at hwords
      simp at hwords
    · exact isDocumented_of_not_surplus

/-- A third word is not looked at. -/
theorem line_with_third_word :
    parse? ":line 3 x" = some (.line 3) ∧ wordsOf ":line 3 x" = [":line", "3", "x"] ∧
      ¬ IsDocumented (wordsOf ":line 3 x") (trimmed ":line 3 x") (parse? ":line 3 x") := by
  have hparse : parse? ":line 3 x" = some (.line 3) := by decide +kernel
  have hwords : wordsOf ":line 3 x" = [":line", "3", "x"] := by decide +kernel
  refine ⟨hparse, hwords, fun hdocumented => ?_⟩
  obtain ⟨-, d, hd, -⟩ := (hdocumented.line 3).mp hparse
  rw [hwords] at hd
  simp at hd

end InputLine

end Playthrough
