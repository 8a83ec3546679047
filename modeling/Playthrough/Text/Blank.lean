/-!
# Blanks and words

White space in the sense of the Unicode property `White_Space`, and the operations that only look
at it: trimming a text at one or both ends, and cutting it into its words.

## Main definitions

* `Text.isBlank` — the white space characters.
* `Text.trimStart`, `Text.trimEnd`, `Text.trim` — a text without the blanks at its ends.
* `Text.words` — the maximal blank-free pieces of a text, in order.
-/

namespace Playthrough

namespace Text

/-- The characters with the Unicode property `White_Space`. -/
def isBlank (c : Char) : Bool :=
  let n := c.toNat
  (0x9 ≤ n && n ≤ 0xd) || n == 0x20 || n == 0x85 || n == 0xa0 || n == 0x1680 ||
    (0x2000 ≤ n && n ≤ 0x200a) || n == 0x2028 || n == 0x2029 || n == 0x202f ||
    n == 0x205f || n == 0x3000

/-- The text without the blanks it begins with. -/
def trimStart (cs : List Char) : List Char :=
  cs.dropWhile isBlank

/-- The text without the blanks it ends with. -/
def trimEnd (cs : List Char) : List Char :=
  (cs.reverse.dropWhile isBlank).reverse

/-- The text without the blanks at either end. -/
def trim (cs : List Char) : List Char :=
  trimEnd (trimStart cs)

/-- A text of blanks only, the empty one among them. -/
def isBlankText (cs : List Char) : Bool :=
  cs.all isBlank

/-- Put `a` in front of the first piece, or start the first piece with it. -/
def extendFirst {α : Type} (a : α) : List (List α) → List (List α)
  | [] => [[a]]
  | p :: ps => (a :: p) :: ps

/-- The maximal blank-free pieces of a text, in order. A character that is not a blank begins a
piece of its own when the text ends or a blank stands behind it, and otherwise joins the piece
behind it. -/
def words : List Char → List (List Char)
  | [] => []
  | c :: cs =>
    if isBlank c then words cs
    else if cs.head?.all isBlank then [c] :: words cs
    else extendFirst c (words cs)

@[simp] theorem trimStart_nil : trimStart [] = [] := rfl

@[simp] theorem trimEnd_nil : trimEnd [] = [] := rfl

@[simp] theorem trim_nil : trim [] = [] := rfl

@[simp] theorem words_nil : words [] = [] := rfl

theorem words_cons_of_isBlank {c : Char} (h : isBlank c = true) (cs : List Char) :
    words (c :: cs) = words cs := by
  simp [words, h]

end Text

end Playthrough
