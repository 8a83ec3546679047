import Mathlib.Data.List.Basic
import Mathlib.Data.List.Perm.Basic
import Playthrough.Interpreter.Program
import Playthrough.Proofs.Words

/-!
# Lines that name a program

A program and its arguments are named by the words of a line. A word is a piece of the line without
blanks that is as long as possible: in front of it the line begins or there is a blank, and behind
it the line ends or there is a blank. The program and the arguments are all of these pieces, in the
order in which they stand in the line.

So it does not matter which blanks stand between the words, or around them. Words that are joined by
any blanks are found again, and a program is named by its name and its arguments with single spaces
between them.

## Main definitions

* `Text.IsPieceAt` — a longest piece without blanks at a place of a text.
* `Text.ArePieces` — all such pieces of a text, in their order.
* `Text.IsWord`, `Text.joined` — words, and some of them joined by blanks.

## Main results

* `Text.isPieceAt_append_iff` — the pieces behind the first word.
* `Text.arePieces_iff` — the words of a text are all its pieces.
* `Text.words_joined` — words that are joined are found again.
* `Program.splits_and_joins` — which lines name which program.
-/

namespace Playthrough

namespace Text

/-! ### Pieces -/

/-- The piece `w` at the index `i` of a text has no blank in it, is not empty, and is as long as
possible: in front of it the text begins or there is a blank, and behind it the text ends or there
is a blank. -/
def IsPieceAt (cs : List Char) (i : ℕ) (w : List Char) : Prop :=
  ∃ front back, cs = front ++ (w ++ back) ∧ front.length = i ∧ w ≠ [] ∧
    (∀ c ∈ w, isBlank c = false) ∧ (∀ c ∈ front.getLast?, isBlank c = true) ∧
    ∀ c ∈ back.head?, isBlank c = true

/-- The list `ws` has all pieces of a text, one for each place of a piece, in the order of their
places. -/
def ArePieces (cs : List Char) (ws : List (List Char)) : Prop :=
  ∃ placed : List (ℕ × List Char), placed.map Prod.snd = ws ∧
    placed.Pairwise (fun p q => p.1 < q.1) ∧ ∀ i w, (i, w) ∈ placed ↔ IsPieceAt cs i w

variable {cs cs' gap w p : List Char} {ws : List (List Char)} {i : ℕ}

/-- A piece begins with a character that is not a blank. -/
theorem exists_head?_of_solid (hne : w ≠ []) (hsolid : ∀ c ∈ w, isBlank c = false) :
    ∃ c, w.head? = some c ∧ isBlank c = false := by
  obtain ⟨c, w, rfl⟩ := List.exists_cons_of_ne_nil hne
  exact ⟨c, rfl, hsolid c List.mem_cons_self⟩

theorem not_isPieceAt_of_blank (h : ∀ c ∈ gap, isBlank c = true) : ¬ IsPieceAt gap i w := by
  rintro ⟨front, back, rfl, -, hne, hsolid, -, -⟩
  obtain ⟨c, hhead, hc⟩ := exists_head?_of_solid hne hsolid
  rw [h c (by simp [List.mem_of_head? hhead])] at hc
  contradiction

/-- Two words at the beginning of the same text are the same. -/
theorem eq_of_append_eq {back : List Char} (h : w ++ cs = p ++ back) (hw : w ≠ [])
    (hp : p ≠ []) (hwsolid : ∀ c ∈ w, isBlank c = false) (hpsolid : ∀ c ∈ p, isBlank c = false)
    (hcs : ∀ c ∈ cs.head?, isBlank c = true) (hback : ∀ c ∈ back.head?, isBlank c = true) :
    p = w := by
  have hwords := congrArg words h
  rw [words_append_of_solid hw hwsolid hcs, words_append_of_solid hp hpsolid hback] at hwords
  exact (List.cons.inj hwords).1.symm

/-- The pieces of a text are its first word and the pieces behind it. -/
theorem isPieceAt_append_iff (hgap : ∀ c ∈ gap, isBlank c = true) (hne : w ≠ [])
    (hsolid : ∀ c ∈ w, isBlank c = false) (hends : ∀ c ∈ cs.head?, isBlank c = true) :
    IsPieceAt (gap ++ (w ++ cs)) i p ↔
      (i = gap.length ∧ p = w) ∨ ∃ j, IsPieceAt cs j p ∧ i = j + (gap.length + w.length) := by
  constructor
  · rintro ⟨front, back, heq, rfl, hp, hpsolid, hfront, hback⟩
    rcases List.append_eq_append_iff.mp heq with ⟨as, rfl, hrest⟩ | ⟨as, rfl, hrest⟩
    · rcases List.append_eq_append_iff.mp hrest with ⟨bs, rfl, hcs⟩ | ⟨bs, rfl, hpiece⟩
      -- the piece begins behind the first word
      · refine .inr ⟨bs.length, ⟨bs, back, hcs, rfl, hp, hpsolid, fun c hc => ?_, hback⟩, ?_⟩
        · exact hfront c (by simp [Option.mem_def.mp hc])
        · simp only [List.length_append]
          omega
      -- inside the first word, the character in front of the piece would not be a blank
      · rcases List.eq_nil_or_concat as with rfl | ⟨as, c, rfl⟩
        · exact .inl ⟨by simp, eq_of_append_eq hpiece.symm hne hp hsolid hpsolid hends hback⟩
        · have hblank := hfront c (by simp)
          rw [hsolid c (by simp)] at hblank
          contradiction
    -- in the gap there is no piece
    · cases as with
      | nil =>
        exact .inl ⟨by simp, eq_of_append_eq hrest.symm hne hp hsolid hpsolid hends hback⟩
      | cons c as =>
        obtain ⟨d, hhead, hd⟩ := exists_head?_of_solid hp hpsolid
        have hsame := congrArg List.head? hrest
        rw [List.head?_append, hhead] at hsame
        obtain rfl : d = c := Option.some.inj hsame
        rw [hgap d (by simp)] at hd
        contradiction
  · rintro (⟨rfl, rfl⟩ | ⟨j, ⟨front, back, rfl, rfl, hp, hpsolid, hfront, hback⟩, rfl⟩)
    · exact ⟨gap, cs, rfl, rfl, hne, hsolid, fun c hc => hgap c (List.mem_of_getLast? hc), hends⟩
    · refine ⟨gap ++ (w ++ front), back, by simp, ?_, hp, hpsolid, fun c hc => ?_, hback⟩
      · simp only [List.length_append]
        omega
      · rcases List.eq_nil_or_concat front with rfl | ⟨front, d, rfl⟩
        · obtain ⟨d, hhead, hd⟩ := exists_head?_of_solid hp hpsolid
          have hblank := hends d (by simp [hhead])
          exact absurd (hd.symm.trans hblank) Bool.false_ne_true
        · exact hfront c (by simpa using hc)

theorem IsWords.arePieces (h : IsWords cs ws) : ArePieces cs ws := by
  induction h with
  | nil blank =>
    refine ⟨[], rfl, .nil, fun i w => ?_⟩
    exact iff_of_false List.not_mem_nil (not_isPieceAt_of_blank blank)
  | @cons gap w cs ws blank nonempty solid ends rest ih =>
    obtain ⟨placed, hpieces, hordered, hmem⟩ := ih
    let behind := placed.map fun p => (p.1 + (gap.length + w.length), p.2)
    have hpos : 0 < w.length := List.length_pos_iff.mpr nonempty
    refine ⟨(gap.length, w) :: behind, ?_, List.pairwise_cons.mpr ⟨?_, ?_⟩, fun i p => ?_⟩
    · rw [List.map_cons, List.map_map, ← hpieces]
      rfl
    · intro q hq
      obtain ⟨p, -, rfl⟩ := List.mem_map.mp hq
      dsimp only
      omega
    · exact hordered.map _ fun p q hlt => Nat.add_lt_add_right hlt _
    · rw [isPieceAt_append_iff blank nonempty solid ends, List.mem_cons, Prod.mk.injEq]
      refine or_congr Iff.rfl ?_
      simp only [behind, List.mem_map, Prod.mk.injEq, Prod.exists, hmem]
      constructor
      · rintro ⟨j, q, hpiece, rfl, rfl⟩
        exact ⟨j, hpiece, rfl⟩
      · rintro ⟨j, hpiece, rfl⟩
        exact ⟨j, p, hpiece, rfl, rfl⟩

/-- The pieces of a text are determined by their places. -/
theorem ArePieces.unique {ws' : List (List Char)} (h : ArePieces cs ws) (h' : ArePieces cs ws') :
    ws = ws' := by
  obtain ⟨placed, rfl, hordered, hmem⟩ := h
  obtain ⟨placed', rfl, hordered', hmem'⟩ := h'
  have hnodup {ps : List (ℕ × List Char)} (hps : ps.Pairwise fun p q => p.1 < q.1) : ps.Nodup :=
    hps.imp fun hlt heq => absurd (congrArg Prod.fst heq) (Nat.ne_of_lt hlt)
  have hperm : placed.Perm placed' :=
    (List.perm_ext_iff_of_nodup (hnodup hordered) (hnodup hordered')).mpr fun p =>
      (hmem p.1 p.2).trans (hmem' p.1 p.2).symm
  have hsame : placed = placed' :=
    hperm.eq_of_pairwise (fun p q _ _ hlt hgt => absurd hlt (Nat.lt_asymm hgt)) hordered hordered'
  rw [hsame]

/-- The words of a text are all its pieces. -/
theorem arePieces_iff : ArePieces cs ws ↔ words cs = ws := by
  have h : ArePieces cs (words cs) := (isWords_words cs).arePieces
  constructor
  · exact h.unique
  · rintro rfl
    exact h

theorem ArePieces.isWord (h : ArePieces cs ws) (hw : w ∈ ws) :
    w ≠ [] ∧ ∀ c ∈ w, isBlank c = false := by
  obtain ⟨placed, rfl, -, hmem⟩ := h
  obtain ⟨⟨i, w⟩, hp, rfl⟩ := List.mem_map.mp hw
  obtain ⟨-, -, -, -, hne, hsolid, -, -⟩ := (hmem i w).mp hp
  exact ⟨hne, hsolid⟩

/-! ### Joined words -/

/-- A word: it is not empty and has no blank in it. -/
def IsWord (s : String) : Prop :=
  s.toList ≠ [] ∧ ∀ c ∈ s.toList, isBlank c = false

/-- A text of blanks only. -/
def IsGap (s : String) : Prop :=
  ∀ c ∈ s.toList, isBlank c = true

instance (s : String) : Decidable (IsWord s) :=
  decidable_of_iff (s.toList ≠ [] ∧ s.toList.all (!isBlank ·) = true) (by simp [IsWord])

instance (s : String) : Decidable (IsGap s) :=
  decidable_of_iff (s.toList.all isBlank = true) (by simp [IsGap])

/-- A text and some more, each with a gap in front of it. -/
def joined : String → List (String × String) → String
  | s, [] => s
  | s, (gap, t) :: rest => s ++ gap ++ joined t rest

/-- Words that are joined by gaps which are not empty are found again, whatever gaps stand around
them. -/
theorem words_joined {front back s : String} {rest : List (String × String)} (hfront : IsGap front)
    (hback : IsGap back) (hs : IsWord s)
    (hrest : ∀ p ∈ rest, p.1.toList ≠ [] ∧ IsGap p.1 ∧ IsWord p.2) :
    words (front ++ joined s rest ++ back).toList = s.toList :: rest.map fun p => p.2.toList := by
  rw [String.toList_append, String.toList_append, words_append_gap hback,
    words_gap_append hfront]
  induction rest generalizing s with
  | nil =>
    have hword : words (s.toList ++ []) = [s.toList] := words_append_of_solid hs.1 hs.2 (by simp)
    rwa [List.append_nil] at hword
  | cons p rest ih =>
    obtain ⟨gap, t⟩ := p
    obtain ⟨⟨hne, hgap, ht⟩, hrest⟩ := List.forall_mem_cons.mp hrest
    have hends : ∀ c ∈ (gap.toList ++ (joined t rest).toList).head?, isBlank c = true := by
      obtain ⟨d, ds, hds⟩ := List.exists_cons_of_ne_nil hne
      intro c hc
      rw [hds] at hc
      obtain rfl := Option.some.inj hc
      exact hgap d (by simp [hds])
    rw [joined, String.toList_append, String.toList_append, List.append_assoc,
      words_append_of_solid hs.1 hs.2 hends, words_gap_append hgap, ih ht hrest]
    rfl

theorem intercalate_eq_joined (gap s : String) (ts : List String) :
    gap.intercalate (s :: ts) = joined s (ts.map fun t => (gap, t)) := by
  induction ts generalizing s with
  | nil => simp [joined]
  | cons t ts ih => rw [String.intercalate_cons_cons, ih, List.map_cons, joined]

end Text

/-! ### Programs -/

namespace Program

open Text

variable {line : String} {p : Program}

/-- The words that name a program: its name and its arguments. -/
def namedBy (p : Program) : List String :=
  p.name :: p.args

theorem foldl_withArg (p : Program) (args : List String) :
    args.foldl withArg p = { p with args := p.args ++ args } := by
  induction args generalizing p with
  | nil => simp
  | cons arg args ih => simp [ih, withArg]

theorem parse?_eq_none_iff : parse? line = none ↔ words line.toList = [] := by
  unfold parse?
  cases words line.toList <;> simp

theorem parse?_eq_some_iff :
    parse? line = some p ↔ words line.toList = p.namedBy.map String.toList := by
  have hofList (ws : List (List Char)) (ss : List String) :
      ws.map String.ofList = ss ↔ ws = ss.map String.toList := by
    constructor
    · rintro rfl
      simp
    · rintro rfl
      simp
  rw [← hofList]
  unfold parse?
  cases (words line.toList).map String.ofList with
  | nil => simp [namedBy]
  | cons name args =>
    obtain ⟨pname, pargs⟩ := p
    simp [namedBy]

/-- The words that name a program are words. -/
theorem isWord_of_parse? (h : parse? line = some p) : ∀ w ∈ p.namedBy, IsWord w := fun w hw => by
  have hpieces := arePieces_iff.mpr (parse?_eq_some_iff.mp h)
  exact hpieces.isWord (List.mem_map_of_mem hw)

/-- A program is named by its words with single spaces between them. -/
theorem parse?_intercalate (h : ∀ w ∈ p.namedBy, IsWord w) :
    parse? (" ".intercalate p.namedBy) = some p := by
  have hempty : IsGap "" := fun c hc => absurd hc (by simp)
  have hspace : IsGap " " := fun c hc => by
    obtain rfl : c = ' ' := by simpa using hc
    rfl
  obtain ⟨hname, hargs⟩ := List.forall_mem_cons.mp h
  have hrest : ∀ q ∈ p.args.map fun arg => (" ", arg),
      q.1.toList ≠ [] ∧ IsGap q.1 ∧ IsWord q.2 :=
    List.forall_mem_map.mpr fun arg harg => ⟨by simp, hspace, hargs arg harg⟩
  have hwords := words_joined hempty hempty hname hrest
  rw [String.empty_append, String.append_empty, ← intercalate_eq_joined] at hwords
  rw [parse?_eq_some_iff, namedBy, hwords]
  simp

/-- A line of nothing but blanks names no program. Any other line names the program whose name and
arguments are all pieces of the line, so that lines with the same pieces name the same program, and
none of the pieces is empty or has a blank in it. Whatever blanks join a name and arguments, the
line names the program that is made of them, and the words of a program that are joined by single
spaces name it again. -/
theorem splits_and_joins :
    (∀ line, parse? line = none ↔ ∀ c ∈ line.toList, isBlank c = true) ∧
    (∀ line p, parse? line = some p ↔
      ArePieces line.toList (p.namedBy.map String.toList)) ∧
    (∀ line line' ws, ArePieces line.toList ws → ArePieces line'.toList ws →
      parse? line = parse? line') ∧
    (∀ line p, parse? line = some p → ∀ w ∈ p.namedBy, IsWord w) ∧
    (∀ front name rest back, IsGap front → IsGap back → IsWord name →
      (∀ p ∈ rest, p.1.toList ≠ [] ∧ IsGap p.1 ∧ IsWord p.2) →
      parse? (front ++ joined name rest ++ back) =
        some ((rest.map Prod.snd).foldl withArg { name })) ∧
    ∀ line p, parse? line = some p → parse? (" ".intercalate p.namedBy) = some p := by
  refine ⟨fun line => ?_, fun line p => ?_, fun line line' ws h h' => ?_, fun line p h => ?_,
    fun front name rest back hfront hback hname hrest => ?_, fun line p h => ?_⟩
  · rw [parse?_eq_none_iff, words_eq_nil_iff]
  · rw [parse?_eq_some_iff, arePieces_iff]
  · rw [arePieces_iff] at h h'
    rw [parse?, parse?, h, h']
  · exact isWord_of_parse? h
  · rw [parse?_eq_some_iff, words_joined hfront hback hname hrest, foldl_withArg]
    simp [namedBy]
  · exact parse?_intercalate (isWord_of_parse? h)

/-- The blanks in front of a program, and those between it and its argument, make no difference. -/
theorem inklecate_line_is_parsed :
    IsGap "  " ∧ IsWord "inklecate" ∧ IsWord "--json" ∧
      parse? ("  " ++ joined "inklecate" [(" \t", "--json")] ++ "") =
        some ((Program.mk "inklecate" []).withArg "--json") := by
  have hrest : ∀ p ∈ [(" \t", "--json")], p.1.toList ≠ [] ∧ IsGap p.1 ∧ IsWord p.2 :=
    List.forall_mem_singleton.mpr (by decide)
  have hfront : IsGap "  " := by decide
  have hback : IsGap "" := by decide
  have hname : IsWord "inklecate" := by decide
  exact ⟨hfront, hname, by decide,
    splits_and_joins.2.2.2.2.1 "  " "inklecate" _ "" hfront hback hname hrest⟩

end Program

end Playthrough
