import Playthrough.Text.Blank

/-!
# Lines

A line ends at a line feed. One carriage return directly in front of the line feed belongs to the
line end, any other carriage return to the line. What stands behind the last line feed is a line
only if it is not empty.

The rule is the same for characters and for octets, so it is stated once, for any type with a
chosen carriage return and line feed.

## Main definitions

* `Text.splitLines` — the lines of a sequence, for a given carriage return and line feed.
* `Text.lines` — the lines of a text.
* `Text.octetLines` — the lines of a sequence of octets.
-/

namespace Playthrough

namespace Text

/-- The lines of a sequence in which `cr` and `lf` stand for carriage return and line feed. -/
def splitLines {α : Type} [DecidableEq α] (cr lf : α) : List α → List (List α)
  | [] => []
  | a :: as =>
    if a = lf then [] :: splitLines cr lf as
    else if a = cr ∧ as.head? = some lf then splitLines cr lf as
    else extendFirst a (splitLines cr lf as)

/-- The lines of a text. -/
def lines (cs : List Char) : List (List Char) :=
  splitLines '\r' '\n' cs

/-- The lines of a sequence of octets. -/
def octetLines (bs : List UInt8) : List (List UInt8) :=
  splitLines 13 10 bs

@[simp] theorem splitLines_nil {α : Type} [DecidableEq α] (cr lf : α) :
    splitLines cr lf [] = [] := rfl

@[simp] theorem splitLines_lf {α : Type} [DecidableEq α] (cr lf : α) (as : List α) :
    splitLines cr lf (lf :: as) = [] :: splitLines cr lf as := by
  simp [splitLines]

end Text

end Playthrough
