import Playthrough.Text.Blank

/-!
# Searching a text

## Main definitions

* `Text.afterFirst?` — what follows the first occurrence of a word.
* `Text.occursIn` — whether a word occurs.
* `Text.splitAt` — the pieces of a text between the occurrences of a character.
-/

namespace Playthrough

namespace Text

/-- What follows the first occurrence of a word in a text. -/
def afterFirst? (word : List Char) : List Char → Option (List Char)
  | [] => if word.isEmpty then some [] else none
  | c :: cs =>
    if word.isPrefixOf (c :: cs) then some ((c :: cs).drop word.length) else afterFirst? word cs

/-- Whether a word occurs in a text. -/
def occursIn (word cs : List Char) : Bool :=
  (afterFirst? word cs).isSome

/-- The pieces of a text between the occurrences of a character. There is one piece more than there
are occurrences. -/
def splitAt (sep : Char) : List Char → List (List Char)
  | [] => [[]]
  | c :: cs => if c = sep then [] :: splitAt sep cs else extendFirst c (splitAt sep cs)

theorem splitAt_ne_nil (sep : Char) (cs : List Char) : splitAt sep cs ≠ [] := by
  cases cs with
  | nil => simp [splitAt]
  | cons c cs =>
    simp only [splitAt]
    split
    · simp
    · cases splitAt sep cs <;> simp [extendFirst]

end Text

end Playthrough
