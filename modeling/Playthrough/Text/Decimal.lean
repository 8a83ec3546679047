/-!
# Decimal numbers of one machine word

Numbers that a person or an environment variable writes: an optional plus sign and one or more
ASCII digits, with a value below `2 ^ 64`. Leading zeros are allowed, a minus sign is not.

## Main definitions

* `Text.wordLimit` — the first number that does not fit.
* `Text.isDigits` — one or more ASCII digits.
* `Text.readWord?` — the number a text stands for, if it is one.
-/

namespace Playthrough

namespace Text

/-- The numbers that fit a machine word are those below this one. -/
def wordLimit : Nat := Nat.pow 2 64

/-- One or more ASCII digits. -/
def isDigits (cs : List Char) : Bool :=
  !cs.isEmpty && cs.all Char.isDigit

/-- The value of a sequence of decimal digits. -/
def digitsValue (cs : List Char) : Nat :=
  Nat.ofDigitChars 10 cs 0

/-- The text without one leading plus sign. -/
def dropPlus : List Char → List Char
  | '+' :: cs => cs
  | cs => cs

/-- The number below `wordLimit` that an optional plus sign and one or more digits stand for. -/
def readWord? (cs : List Char) : Option Nat :=
  let ds := dropPlus cs
  if isDigits ds && decide (digitsValue ds < wordLimit) then some (digitsValue ds) else none

theorem readWord?_lt {cs : List Char} {n : Nat} (h : readWord? cs = some n) : n < wordLimit := by
  simp only [readWord?, Option.ite_none_right_eq_some, Bool.and_eq_true, decide_eq_true_eq,
    Option.some.injEq] at h
  exact h.2 ▸ h.1.2

end Text

end Playthrough
